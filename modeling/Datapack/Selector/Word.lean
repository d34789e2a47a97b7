import Datapack.Text.WordChar

/-! The word that touches a cursor. -/

namespace Datapack.Selector

open Datapack.Text

/-- A cursor moved into the line: before it becomes its start, beyond it its end. -/
def clampCursor (line : List Char) (cursor : Int) : Nat := min cursor.toNat line.length

/-- How many word characters end directly before offset `o`. -/
def wordBefore (line : List Char) (o : Nat) : Nat :=
  ((line.take o).reverse.takeWhile isWordPart).length

/-- How many word characters start at offset `o`. -/
def wordAfter (line : List Char) (o : Nat) : Nat :=
  ((line.drop o).takeWhile isWordPart).length

/-- The character directly before offset `o`. -/
def charBefore? (cs : List Char) (o : Nat) : Option Char :=
  if o = 0 then none else cs[o - 1]?

/-- The start and the end of the word touching the cursor, if it touches one. -/
def wordAt? (line : List Char) (cursor : Int) : Option (Nat × Nat) :=
  let o := clampCursor line cursor
  let start := o - wordBefore line o
  let stop := o + wordAfter line o
  if start = stop then none else some (start, stop)

end Datapack.Selector
