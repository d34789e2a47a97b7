import Datapack.Text.Blank

/-! Line ends: one spelling for every line end in a file, and the lines of a document. -/

namespace Datapack.Text

/-- Turns every carriage return, with the line feed that may follow it, into one line feed. -/
def unifyLineEnds : List Char → List Char
  | [] => []
  | '\r' :: '\n' :: rest => '\n' :: unifyLineEnds rest
  | '\r' :: rest => '\n' :: unifyLineEnds rest
  | c :: rest => c :: unifyLineEnds rest

/-- Characters that end a line of a document. -/
def isLineEnd (c : Char) : Bool :=
  [0xA, 0xB, 0xC, 0xD, 0x1C, 0x1D, 0x1E, 0x85, 0x2028, 0x2029].contains c.toNat

/-- The lines of a document, each with its end; `line` is the current one, reversed. -/
def splitLinesFrom (line : List Char) : List Char → List (List Char)
  | [] => if line.isEmpty then [] else [line.reverse]
  | '\r' :: '\n' :: rest => (('\n' :: '\r' :: line).reverse) :: splitLinesFrom [] rest
  | c :: rest =>
    if isLineEnd c then (c :: line).reverse :: splitLinesFrom [] rest
    else splitLinesFrom (c :: line) rest

def splitLines (cs : List Char) : List (List Char) := splitLinesFrom [] cs

def isReturnOrFeed (c : Char) : Bool := c == '\r' || c == '\n'

/-- Drops the carriage returns and line feeds at the end. -/
def dropLineEnd (cs : List Char) : List Char := dropEndWhile isReturnOrFeed cs

end Datapack.Text
