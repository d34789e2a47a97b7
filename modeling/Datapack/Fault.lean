import Datapack.Decimal.Text
import Datapack.Text.Integer

/-! Causes of failure, and the one wording of each. -/

namespace Datapack

/-- One step on the way to a value inside another one. -/
inductive PathKey where
  | field (name : String)
  | index (i : Nat)
deriving DecidableEq, Repr

/-- What is wrong with a value that does not have the expected shape. -/
inductive Complaint where
  | missing
  | notString
  | notInteger
  | integerText
  | fractional
  | notFinite
  | integerSize
  | notNumber
  | numberText
  | notPositive
  | notPath
  /-- Neither a list nor, in a report, an array. -/
  | notList (inReport : Bool)
  /-- Not an object with the fields of `model`. -/
  | notObject (model : String) (inReport : Bool)
  | unknownMode
  | unknownSeverity
  | notJson
deriving DecidableEq, Repr

/-- A complaint and where it applies. -/
structure Issue where
  complaint : Complaint
  location : List PathKey
deriving DecidableEq, Repr

def Issue.within (key : PathKey) (issue : Issue) : Issue :=
  { issue with location := key :: issue.location }

def Complaint.message : Complaint → String
  | missing => "Field required"
  | notString => "Input should be a valid string"
  | notInteger => "Input should be a valid integer"
  | integerText => "Input should be a valid integer, unable to parse string as an integer"
  | fractional => "Input should be a valid integer, got a number with a fractional part"
  | notFinite => "Input should be a finite number"
  | integerSize => "Unable to parse input string as an integer, exceeded maximum size"
  | notNumber => "Input should be a valid number"
  | numberText => "Input should be a valid number, unable to parse string as a number"
  | notPositive => "Input should be greater than 0"
  | notPath => "Input is not a valid path for <class 'pathlib.Path'>"
  | notList false => "Input should be a valid list"
  | notList true => "Input should be a valid array"
  | notObject model false => "Input should be a valid dictionary or instance of " ++ model
  | notObject _ true => "Input should be an object"
  | unknownMode => "Input should be 'persistent' or 'batch'"
  | unknownSeverity => "Input should be 1, 2, 3 or 4"
  | notJson => "Invalid JSON"

/-- Why the operating system refused something. -/
inductive OsError where
  | notFound
  | permission
  | isDirectory
  | notDirectory
  | nameTooLong
  | other
deriving DecidableEq, Repr

/-- Everything that can go wrong. -/
inductive Fault where
  /-- A path starts with two slashes and has no further one. -/
  | noShare
  /-- An error line that has the mark but not the shape. -/
  | missingFileMark (text : String)
  | missingColumnMark (text : String)
  | missingMessageMark (text : String)
  | integer (cause : Text.IntegerError)
  /-- Bytes that are no UTF-8. -/
  | undecodable
  /-- A path that holds a null character. -/
  | nullInPath
  /-- A uri whose authority has unbalanced brackets. -/
  | badBrackets
  /-- A uri whose authority has something in brackets that is no address. -/
  | badAddress (host : String)
  | badFutureAddress
  | bracketedIPv4
  /-- A uri whose authority holds a character that looks like a delimiter. -/
  | lookalike (authority : String)
  /-- A coordinate a client does not accept. -/
  | positionOutOfRange (coordinate : String) (value : Int)
  | notRunning
  | inputClosed
  | sendTimeout (command : String)
  | compileTimeout
  | os (error : OsError)
  /-- A process that could not be created for another reason. -/
  | spawnFailed
  | invalid (issues : List Issue)
  | invalidReport (issues : List Issue)
  /-- A log level that has a name but no rank. -/
  | levelUnknown (shown : String)
  | levelNoNumber (shown : String)
  /-- The source of file changes broke down. -/
  | watchFailed
  /-- A callback refused what it was given. -/
  | callbackFailed
  /-- An operation on a compiler that is not there. -/
  | noCompiler (operation : String)
  /-- A document that is not open. -/
  | unknownDocument (uri : String)
  /-- A request about documents before there is a workspace. -/
  | noWorkspace
deriving DecidableEq, Repr

namespace Fault

open Text

def message : Fault → String
  | noShare => "substring not found"
  | missingFileMark text => "missing file separator in " ++ quoted text
  | missingColumnMark text => "missing line/column separator in " ++ quoted text
  | missingMessageMark text => "missing message separator in " ++ quoted text
  | integer cause => cause.message
  | nullInPath => "embedded null byte"
  | badBrackets => "Invalid IPv6 URL"
  | badAddress host => quoted host ++ " does not appear to be an IPv4 or IPv6 address"
  | badFutureAddress => "IPvFuture address is invalid"
  | bracketedIPv4 => "An IPv4 address cannot be in brackets"
  | lookalike authority =>
    "netloc '" ++ authority ++ "' contains invalid characters under NFKC normalization"
  | positionOutOfRange coordinate value =>
    "Position." ++ coordinate ++ " should be in range [0:2147483647], but was " ++ toString value ++ "."
  | notRunning => "compiler process is not running"
  | inputClosed => "compiler closed its input"
  | sendTimeout command => "timed out sending " ++ quoted command
  | spawnFailed => "spawn failed"
  | levelUnknown shown => "Unknown level: " ++ shown
  | levelNoNumber shown => "Level not an integer or a valid string: " ++ shown
  | watchFailed => "watch failed"
  | callbackFailed => "callback failed"
  | noCompiler operation => "'NoneType' object has no attribute '" ++ operation ++ "'"
  | unknownDocument uri => quoted uri
  | noWorkspace => "The workspace is not available - has the server been initialized?"
  | undecodable | compileTimeout | os _ | invalid _ | invalidReport _ => ""

/-- The kind under which a failure is shown. -/
def kind : Fault → String
  | undecodable => "UnicodeDecodeError"
  | notRunning | inputClosed => "CompilerNotRunningError"
  | sendTimeout _ | compileTimeout => "CompilerTimeoutError"
  | os .notFound => "FileNotFoundError"
  | os .permission => "PermissionError"
  | os .isDirectory => "IsADirectoryError"
  | os .notDirectory => "NotADirectoryError"
  | os .nameTooLong | os .other => "OSError"
  | invalid _ => "ValidationError"
  | invalidReport _ => "ReportError"
  | levelNoNumber _ => "TypeError"
  | watchFailed | callbackFailed | noWorkspace => "RuntimeError"
  | noCompiler _ => "AttributeError"
  | unknownDocument _ => "KeyError"
  | noShare | missingFileMark _ | missingColumnMark _ | missingMessageMark _ | integer _
  | nullInPath | badBrackets | badAddress _ | badFutureAddress | bracketedIPv4 | lookalike _
  | positionOutOfRange _ _ | spawnFailed | levelUnknown _ => "ValueError"

/-- The kind of a failure and its wording, as clients are told. -/
def shown (f : Fault) : String :=
  if f.message.isEmpty then f.kind else f.kind ++ ": " ++ f.message

end Fault

end Datapack
