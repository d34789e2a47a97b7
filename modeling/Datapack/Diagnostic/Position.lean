import Datapack.Diagnostic.Record

/-! Positions in documents, counted from zero. -/

namespace Datapack.Diagnostic

structure Position where
  line : Int
  column : Int
deriving DecidableEq, Repr

/-- The position of the last character of a text: the line feeds before it, and the characters
since the last of them. -/
def lastPosition (text : List Char) : Position :=
  let before := text.dropLast
  ⟨before.count '\n', (before.reverse.takeWhile (· != '\n')).length⟩

/-- The line that means the end of the document. -/
def endMark : Int := -1

/-- Where a finding is: at the end of the document, or at its line and column, moved to zero if
negative. -/
def positionOf (line column : Int) (text : Option String) : Position :=
  if line = endMark then lastPosition (text.getD "").toList
  else ⟨max (line - 1) 0, max column 0⟩

/-- The largest coordinate a client accepts. -/
def maxCoordinate : Int := 2147483647

def checkCoordinate (name : String) (n : Int) : Except Fault Unit :=
  if 0 ≤ n ∧ n ≤ maxCoordinate then .ok () else .error (.positionOutOfRange name n)

/-- The position of a record, if a client accepts it. -/
def Record.clientPosition (r : Record) : Except Fault Position := do
  checkCoordinate "line" r.line
  checkCoordinate "character" r.column
  return ⟨r.line, r.column⟩

end Datapack.Diagnostic
