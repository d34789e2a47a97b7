import Datapack.Fault

/-! The log: entries, and the threshold that a level's name sets. -/

namespace Datapack

inductive LogLevel where
  | debug
  | info
  | warning
  | error
deriving DecidableEq, Repr

def LogLevel.name : LogLevel → String
  | debug => "DEBUG"
  | info => "INFO"
  | warning => "WARNING"
  | error => "ERROR"

/-- A line of the log, with the failure it tells about. -/
structure LogEntry where
  level : LogLevel
  text : String
  cause : Option Fault := none
deriving DecidableEq, Repr

namespace LogLevel

/-- The threshold before anything sets it. -/
def startThreshold : Nat := 30

/-- The ranks of the level names. -/
def ranks : List (String × Nat) :=
  [("CRITICAL", 50), ("FATAL", 50), ("ERROR", 40), ("WARNING", 30), ("WARN", 30), ("INFO", 20),
   ("DEBUG", 10), ("NOTSET", 0)]

/-- Upper-case forms of the characters beyond ASCII whose upper-case form is ASCII. -/
def asciiCapitals : List (Nat × String) :=
  [(0xDF, "SS"), (0x131, "I"), (0x17F, "S"), (0xFB00, "FF"), (0xFB01, "FI"), (0xFB02, "FL"),
   (0xFB03, "FFI"), (0xFB04, "FFL"), (0xFB05, "ST"), (0xFB06, "ST")]

/-- The upper-case form of a name, as far as it can match an ASCII name. -/
def capitals (name : String) : String :=
  String.ofList <| name.toList.flatMap fun c =>
    match asciiCapitals.lookup c.toNat with
    | some cs => cs.toList
    | none => [c.toUpper]

/-- What a name means to the log. Two names are taken by settings of the log that are no levels. -/
inductive Meaning where
  | rank (n : Nat)
  | noLevel (fault : Fault)
  | unknown
deriving DecidableEq, Repr

def meaning (name : String) : Meaning :=
  let name := capitals name
  match ranks.lookup name with
  | some n => .rank n
  | none =>
    if name = "BASIC_FORMAT" then .noLevel (.levelUnknown "'%(levelname)s:%(name)s:%(message)s'")
    else if name = "_STYLES" then
      .noLevel (.levelNoNumber ("\x7b'%': (<class 'logging.PercentStyle'>, " ++
        "'%(levelname)s:%(name)s:%(message)s'), '\x7b': (<class 'logging.StrFormatStyle'>, " ++
        "'\x7blevelname\x7d:\x7bname\x7d:\x7bmessage\x7d'), '$': (<class 'logging.StringTemplateStyle'>, " ++
        "'$\x7blevelname\x7d:$\x7bname\x7d:$\x7bmessage\x7d')\x7d"))
    else .unknown

/-- Changes the threshold to a named level. No name leaves it, and a name that is no level is
told to the log. -/
def adjust (name : Option String) (threshold : Nat) : Nat × List LogEntry :=
  match name with
  | none => (threshold, [])
  | some name =>
    if name.isEmpty then (threshold, [])
    else
      match meaning name with
      | .rank n => (n, [])
      | _ => (threshold, [⟨.warning, "Ignoring unknown log level " ++ Text.quoted name, none⟩])

/-- The threshold when a program starts with a named level: that of `INFO` for unknown names. -/
def initial (name : String) : Except Fault Nat :=
  match meaning name with
  | .rank n => .ok n
  | .noLevel fault => .error fault
  | .unknown => .ok 20

end LogLevel

end Datapack
