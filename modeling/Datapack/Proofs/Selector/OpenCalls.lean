import Datapack.Selector.Call
import Mathlib.Data.List.Induction

/-! Open calls read forwards. From left to right a text is read with a stack of the calls that are
open. The walk to the left from a cursor keeps two counters and no stack, and finds the top of the
stack that the text before the cursor leaves: `depth` closed parentheses met on the walk are `depth`
calls further down. -/

namespace Datapack.Selector

/-! ### The stack -/

/-- A call with `n` more commas at its level. -/
def OpenCall.addCommas (n : Nat) (call : OpenCall) : OpenCall :=
  { call with commas := call.commas + n }

theorem OpenCall.addCommas_add (m n : Nat) :
    addCommas m ∘ addCommas n = addCommas (m + n) := by
  funext call
  simp [addCommas, Nat.add_assoc, Nat.add_comm m n]

theorem OpenCall.addCommas_zero : addCommas 0 = id := rfl

/-- The open calls after the character `c` at offset `index`, innermost first. A closing parenthesis
ends the innermost call and a comma counts for it; neither does anything where no call is open. -/
def readCall (calls : List OpenCall) (index : Nat) (c : Char) : List OpenCall :=
  if c = '(' then ⟨index, 0⟩ :: calls
  else if c = ')' then calls.tail
  else if c = ',' then calls.modifyHead (.addCommas 1)
  else calls

theorem drop_readCall_open (calls : List OpenCall) (index depth : Nat) :
    (readCall calls index '(').drop (depth + 1) = calls.drop depth := by
  simp [readCall]

theorem drop_readCall_close (calls : List OpenCall) (index depth : Nat) :
    (readCall calls index ')').drop depth = calls.drop (depth + 1) := by
  simp [readCall]

theorem drop_readCall_other {c : Char} (hopen : c ≠ '(') (hclose : c ≠ ')')
    (calls : List OpenCall) (index depth : Nat) :
    (readCall calls index c).drop depth =
      (calls.drop depth).modifyHead (.addCommas (if c = ',' ∧ depth = 0 then 1 else 0)) := by
  by_cases hcomma : c = ','
  · cases depth <;> simp [readCall, hcomma, OpenCall.addCommas_zero]
  · simp [readCall, hopen, hclose, hcomma, OpenCall.addCommas_zero]

/-- Reads on from offset `index`. -/
def openCallsFrom (index : Nat) (calls : List OpenCall) : List Char → List OpenCall
  | [] => calls
  | c :: rest => openCallsFrom (index + 1) (readCall calls index c) rest

/-- The calls that a text leaves open, innermost first. -/
def openCalls (cs : List Char) : List OpenCall := openCallsFrom 0 [] cs

theorem openCallsFrom_append (index : Nat) (calls : List OpenCall) (xs ys : List Char) :
    openCallsFrom index calls (xs ++ ys) =
      openCallsFrom (index + xs.length) (openCallsFrom index calls xs) ys := by
  induction xs generalizing index calls with
  | nil => rfl
  | cons x xs ih =>
      simp only [List.cons_append, openCallsFrom, ih, List.length_cons]
      congr 1
      omega

theorem openCalls_append (xs ys : List Char) :
    openCalls (xs ++ ys) = openCallsFrom xs.length (openCalls xs) ys := by
  rw [openCalls, openCallsFrom_append, Nat.zero_add, openCalls]

theorem openCalls_concat (cs : List Char) (c : Char) :
    openCalls (cs ++ [c]) = readCall (openCalls cs) cs.length c := by
  rw [openCalls_append]
  rfl

/-! ### The walk to the left -/

/-- The walk passes over as many calls as it has met closing parentheses, and takes its commas
along to the call it ends at. -/
theorem openCallBefore_reverse (depth commas : Nat) (cs : List Char) :
    openCallBefore depth commas cs.reverse =
      (openCalls cs)[depth]?.map (.addCommas commas) := by
  rw [← List.head?_drop]
  induction cs using List.reverseRecOn generalizing depth commas with
  | nil => simp [openCallBefore, openCalls, openCallsFrom]
  | append_singleton cs c ih =>
      rw [List.reverse_concat, openCalls_concat, openCallBefore]
      by_cases hopen : c = '('
      · subst c
        cases depth with
        | zero => simp [readCall, OpenCall.addCommas]
        | succ depth => simp [drop_readCall_open, ih]
      by_cases hclose : c = ')'
      · subst c
        simp [drop_readCall_close, ih]
      · rw [drop_readCall_other hopen hclose, List.head?_modifyHead, Option.map_map,
          OpenCall.addCommas_add, if_neg hclose, if_neg hopen]
        split
        · rw [ih]
        · rw [ih, Nat.add_zero]

theorem callAt?_eq (line : List Char) (cursor : Int) :
    callAt? line cursor = (openCalls (line.take (clampCursor line cursor))).head? := by
  rw [callAt?, openCallBefore_reverse, OpenCall.addCommas_zero, Option.map_id, id,
    List.head?_eq_getElem?]

theorem clampCursor_eq (line : List Char) (cursor : Int) :
    clampCursor line cursor = (max 0 (min cursor line.length)).toNat := by
  simp only [clampCursor]
  omega

/-- At a cursor, moved into the line, the walk to the left finds the innermost call of those that
the text before the cursor leaves open, with its offset and its commas, and none exactly if all are
closed. -/
theorem callAt?_eq_innermost (line : List Char) (cursor : Int) :
    callAt? line cursor =
        (openCalls (line.take (max 0 (min cursor line.length)).toNat)).head? ∧
      (callAt? line cursor = none ↔
        openCalls (line.take (max 0 (min cursor line.length)).toNat) = []) := by
  rw [callAt?_eq, clampCursor_eq, List.head?_eq_none_iff]
  exact ⟨rfl, Iff.rfl⟩

example : openCalls ")f(g(a, b), h(c".toList = [⟨13, 0⟩, ⟨2, 1⟩] := by decide

end Datapack.Selector
