import Datapack.Diagnostic.Record
import Datapack.Text.Lines

/-! Error lines: `error:file|line-column|message`. -/

namespace Datapack.Diagnostic

open Text

/-- What every error line starts with. -/
def errorMark : List Char := "error:".toList

/-- Splits at the first occurrence of a character. -/
def splitFirst (mark : Char) : List Char → Option (List Char × List Char)
  | [] => none
  | c :: rest =>
    if c = mark then some ([], rest) else (splitFirst mark rest).map fun (a, b) => (c :: a, b)

/-- Splits at the first dash after the first character, which may be a sign. -/
def splitColumn : List Char → Option (List Char × List Char)
  | [] => none
  | c :: rest => (splitFirst '-' rest).map fun (a, b) => (c :: a, b)

/-- The four fields of an error line, as text. -/
structure Fields where
  file : List Char
  line : List Char
  column : List Char
  message : List Char
deriving DecidableEq, Repr

/-- Splits what follows the mark; `text` is the whole line. -/
def Fields.split (text body : List Char) : Except Fault Fields :=
  match splitFirst '|' body with
  | none => .error (.missingFileMark (String.ofList text))
  | some (file, rest) =>
    match splitColumn rest with
    | none => .error (.missingColumnMark (String.ofList text))
    | some (line, rest) =>
      match splitFirst '|' rest with
      | none => .error (.missingMessageMark (String.ofList text))
      | some (column, message) => .ok ⟨file, line, column, message⟩

def readNumber (cs : List Char) : Except Fault Int := (parseInteger cs).mapError Fault.integer

def Fields.read (f : Fields) : Except Fault Finding := do
  let line ← readNumber f.line
  let column ← readNumber f.column
  return ⟨String.ofList f.file, line, column, String.ofList f.message⟩

/-- Reads one line of compiler output: `none` if it is no error line, and a failure if it has the
mark of one but not the shape. Line ends at the end do not count. -/
def readErrorChars (raw : List Char) : Except Fault (Option Finding) :=
  let text := dropLineEnd raw
  if errorMark.isPrefixOf text then
    match Fields.split text (text.drop errorMark.length) with
    | .error e => .error e
    | .ok fields => fields.read.map some
  else .ok none

def readErrorLine (raw : String) : Except Fault (Option Finding) := readErrorChars raw.toList

/-- The line that reports a finding. -/
def Finding.render (f : Finding) : String :=
  "error:" ++ f.file ++ "|" ++ toString f.line ++ "-" ++ toString f.column ++ "|" ++ f.message

end Datapack.Diagnostic
