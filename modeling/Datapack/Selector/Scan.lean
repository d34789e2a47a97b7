import Datapack.Text.Blank

/-! The selector machine. A selector is an `@`, a head word, an optional bracketed parameter list
and members after dots. The text before the cursor is read from left to right; a character that
the current state does not expect leaves the selector. -/

namespace Datapack.Selector

open Datapack.Text

/-- Where the text read so far stands. -/
inductive Scan where
  /-- Outside any selector. -/
  | outside
  /-- After an `@` and `head` characters of the head word. -/
  | afterAt (head : Nat)
  /-- Inside the bracket at offset `bracket`, which directly follows a head word. -/
  | inBracket (bracket : Nat)
  /-- After the bracket of a selector was closed. -/
  | afterClose
deriving DecidableEq, Repr

namespace Scan

/-- The state after the character `c` at offset `index`. A bracket inside a bracket is a list and
no parameter list, so it leaves the selector. -/
def step (scan : Scan) (index : Nat) (c : Char) : Scan :=
  match scan with
  | inBracket _ => if c = ']' then afterClose else if c = '[' then outside else scan
  | outside => if c = '@' then afterAt 0 else outside
  | afterClose => if c = '@' then afterAt 0 else if isBlank c then afterClose else outside
  | afterAt head =>
    if c = '@' then afterAt 0
    else if isWordPart c then afterAt (head + 1)
    else if isBlank c && head == 0 then scan
    else if c = '[' && 0 < head then inBracket index
    else outside

/-- Reads on from offset `index`. -/
def runFrom (index : Nat) (scan : Scan) : List Char → Scan
  | [] => scan
  | c :: rest => runFrom (index + 1) (scan.step index c) rest

/-- The states after each character. -/
def traceFrom (index : Nat) (scan : Scan) : List Char → List Scan
  | [] => []
  | c :: rest => scan.step index c :: traceFrom (index + 1) (scan.step index c) rest

end Scan

/-- Where a text leaves the selector machine. -/
def scan (cs : List Char) : Scan := .runFrom 0 .outside cs

/-- The machine's state after each character of a text. -/
def scanTrace (cs : List Char) : List Scan := Scan.traceFrom 0 .outside cs

end Datapack.Selector
