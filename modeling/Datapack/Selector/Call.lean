import Datapack.Selector.Word

/-! The call around a cursor: the nearest parenthesis that is still open there. -/

namespace Datapack.Selector

/-- An open parenthesis and the commas at its level. -/
structure OpenCall where
  paren : Nat
  commas : Nat
deriving DecidableEq, Repr

/-- Walks to the left over the characters before an offset, given reversed: `depth` closed
parentheses wait for their opening one, and `commas` commas were passed outside of them. -/
def openCallBefore (depth commas : Nat) : List Char → Option OpenCall
  | [] => none
  | c :: rest =>
    if c = ')' then openCallBefore (depth + 1) commas rest
    else if c = '(' then
      if depth = 0 then some ⟨rest.length, commas⟩ else openCallBefore (depth - 1) commas rest
    else if c = ',' ∧ depth = 0 then openCallBefore depth (commas + 1) rest
    else openCallBefore depth commas rest

/-- The nearest open parenthesis before the cursor, with the commas between the two that are
outside of any parentheses. -/
def callAt? (line : List Char) (cursor : Int) : Option OpenCall :=
  openCallBefore 0 0 (line.take (clampCursor line cursor)).reverse

end Datapack.Selector
