import Datapack.Validation

/-! Diagnostics and compiler reports. -/

namespace Datapack.Diagnostic

open Json Checked

inductive Severity where
  | error
  | warning
  | information
  | hint
deriving DecidableEq, Repr

namespace Severity

def rank : Severity → Nat
  | error => 1
  | warning => 2
  | information => 3
  | hint => 4

def ofRank? (n : Int) : Option Severity :=
  [error, warning, information, hint].find? fun s => (s.rank : Int) == n

/-- Anything that reads as the integer of a severity. -/
def check (j : Json) : Checked Severity :=
  match j.asInteger with
  | .ok n =>
    match ofRank? n with
    | some s => .ok s
    | none => fail (if isMachineInteger n then .unknownSeverity else .integerSize)
  | .error _ => fail .unknownSeverity

end Severity

/-- Who the diagnostics come from. -/
def sourceName : String := "dpscript"

/-- One error, at a position in a document. -/
structure Record where
  uri : String
  line : Int
  column : Int
  message : String
  severity : Severity := .error
  source : String := sourceName
deriving DecidableEq, Repr

def Record.check (j : Json) : Checked Record := do
  let fields ← j.asFields "DiagnosticRecord" false
  let (uri, line, column, message, severity, source) ←
    both (required "uri" asString fields) <|
    both (required "line" asInteger fields) <|
    both (required "column" asInteger fields) <|
    both (required "message" asString fields) <|
    both (optional "severity" Severity.check .error fields) <|
    optional "source" asString sourceName fields
  return ⟨uri, line, column, message, severity, source⟩

/-- An error as the compiler reports it: lines count from one and columns from zero, and a line of
minus one is the end of the document. -/
structure Finding where
  file : String
  line : Int
  column : Int
  message : String
deriving DecidableEq, Repr

def Finding.check (inReport : Bool) (j : Json) : Checked Finding := do
  let fields ← j.asFields "ReportEntry" inReport
  let (file, line, column, message) ←
    both (required "file" asString fields) <|
    both (required "line" asInteger fields) <|
    both (required "column" asInteger fields) <|
    required "message" asString fields
  return ⟨file, line, column, message⟩

/-- What a one-shot compile reports. -/
structure Report where
  errors : List Finding
  suggestions : List Json

def Report.check (inReport : Bool) (j : Json) : Checked Report := do
  let fields ← j.asFields "CompilerReport" inReport
  let (errors, suggestions) ←
    both (optional "errors" (asList inReport (Finding.check inReport)) [] fields) <|
    optional "suggestions" (asList inReport .ok) [] fields
  return ⟨errors, suggestions⟩

end Datapack.Diagnostic
