import Datapack.Selector.Word
import Mathlib.Logic.Basic

/-! The word that touches a cursor. The runs of word characters that end and start at an offset make
up one range, which no word character borders on. There is at most one such range around an offset,
and it is the same for all offsets that it touches, its two ends included. -/

namespace Datapack.Selector

open Text

/-- The characters from `start` to `stop` are a word: some word characters, and no more of them on
either side. -/
structure IsWord (text : List Char) (start stop : Nat) : Prop where
  lt : start < stop
  le_length : stop ≤ text.length
  word : ∀ c ∈ (text.take stop).drop start, isWordPart c
  before : ∀ c, charBefore? text start = some c → isWordPart c = false
  after : ∀ c, text[stop]? = some c → isWordPart c = false

/-! ### Offsets -/

theorem clampCursor_natCast {text : List Char} {cursor : Nat} (h : cursor ≤ text.length) :
    clampCursor text cursor = cursor := by
  simp [clampCursor, h]

theorem clampCursor_le (text : List Char) (cursor : Int) :
    clampCursor text cursor ≤ text.length := Nat.min_le_right _ _

theorem charBefore?_eq_some_iff {text : List Char} {o : Nat} {c : Char} :
    charBefore? text o = some c ↔ ∃ d, o = d + 1 ∧ text[d]? = some c := by
  cases o <;> simp [charBefore?]

/-! ### Runs of word characters -/

theorem length_takeWhile_eq_iff {α : Type} {p : α → Bool} {xs : List α} {n : Nat} :
    (xs.takeWhile p).length = n ↔
      n ≤ xs.length ∧ (∀ x ∈ xs.take n, p x) ∧ ∀ x, xs[n]? = some x → p x = false := by
  induction xs generalizing n with
  | nil => simp [eq_comm (a := 0)]
  | cons x xs ih =>
      cases n with
      | zero => cases hx : p x <;> simp [hx]
      | succ n => cases hx : p x <;> simp [hx, ih]

section

variable {text : List Char} {o n : Nat}

theorem wordAfter_eq_iff (ho : o ≤ text.length) :
    wordAfter text o = n ↔
      o + n ≤ text.length ∧ (∀ c ∈ (text.take (o + n)).drop o, isWordPart c) ∧
        ∀ c, text[o + n]? = some c → isWordPart c = false := by
  have hfits : n ≤ text.length - o ↔ o + n ≤ text.length := by omega
  rw [wordAfter, length_takeWhile_eq_iff, List.length_drop, List.getElem?_drop, List.drop_take,
    Nat.add_sub_cancel_left, hfits]

theorem wordBefore_eq_iff (ho : o ≤ text.length) :
    wordBefore text o = n ↔
      n ≤ o ∧ (∀ c ∈ (text.take o).drop (o - n), isWordPart c) ∧
        ∀ c, charBefore? text (o - n) = some c → isWordPart c = false := by
  have hlength : (text.take o).length = o := by rw [List.length_take, Nat.min_eq_left ho]
  rw [wordBefore, length_takeWhile_eq_iff, List.length_reverse, hlength, List.take_reverse, hlength]
  refine and_congr_right fun hn => ?_
  have hchar : (text.take o).reverse[n]? = charBefore? text (o - n) := by
    rcases Nat.eq_or_lt_of_le hn with rfl | hlt
    · simp [charBefore?, hlength]
    · have hne : ¬o - n = 0 := by omega
      rw [List.getElem?_reverse (by omega), hlength, List.getElem?_take_of_lt (by omega),
        charBefore?, if_neg hne]
      congr 1
      omega
  rw [hchar]
  simp only [List.mem_reverse]

theorem wordAfter_ne_zero_iff :
    wordAfter text o ≠ 0 ↔ ∃ c, text[o]? = some c ∧ isWordPart c := by
  rw [wordAfter, ← List.head?_drop]
  cases text.drop o with
  | nil => simp
  | cons c rest => by_cases hc : isWordPart c <;> simp [hc]

theorem wordBefore_ne_zero_iff (ho : o ≤ text.length) :
    wordBefore text o ≠ 0 ↔ ∃ c, charBefore? text o = some c ∧ isWordPart c := by
  rw [Ne, wordBefore_eq_iff ho, Nat.sub_zero, List.drop_eq_nil_of_le (List.length_take_le _ _)]
  simp

/-! ### The word around an offset -/

/-- The two runs at an offset make up the text from the start of one to the end of the other. -/
theorem drop_take_split (ho : o ≤ text.length) {start stop : Nat} (hstart : start ≤ o)
    (hstop : o ≤ stop) :
    (text.take stop).drop start = (text.take o).drop start ++ (text.take stop).drop o := by
  have hlength : (text.take o).length = o := by rw [List.length_take, Nat.min_eq_left ho]
  have hsplit := List.take_append_drop o (text.take stop)
  rw [List.take_take, Nat.min_eq_left hstop] at hsplit
  rw [← List.drop_append_of_le_length (by rwa [hlength]), hsplit]

/-- A word that touches an offset is made up of the two runs there. -/
theorem isWord_around_iff (ho : o ≤ text.length) {start stop : Nat} :
    start ≤ o ∧ o ≤ stop ∧ IsWord text start stop ↔
      start < stop ∧ start = o - wordBefore text o ∧ stop = o + wordAfter text o := by
  constructor
  · rintro ⟨hstart, hstop, h⟩
    have hword := h.word
    rw [drop_take_split ho hstart hstop, List.forall_mem_append] at hword
    have hbefore : wordBefore text o = o - start := by
      rw [wordBefore_eq_iff ho, Nat.sub_sub_self hstart]
      exact ⟨Nat.sub_le o start, hword.1, h.before⟩
    have hafter : wordAfter text o = stop - o := by
      rw [wordAfter_eq_iff ho, Nat.add_sub_cancel' hstop]
      exact ⟨h.le_length, hword.2, h.after⟩
    have hlt := h.lt
    omega
  · rintro ⟨hlt, rfl, rfl⟩
    obtain ⟨_, hfront, hbefore⟩ := (wordBefore_eq_iff ho).mp rfl
    obtain ⟨hlength, hback, hafter⟩ := (wordAfter_eq_iff ho).mp rfl
    have hstart : o - wordBefore text o ≤ o := Nat.sub_le _ _
    have hstop : o ≤ o + wordAfter text o := Nat.le_add_right _ _
    refine ⟨hstart, hstop, hlt, hlength, ?_, hbefore, hafter⟩
    rw [drop_take_split ho hstart hstop, List.forall_mem_append]
    exact ⟨hfront, hback⟩

end

/-! ### The word at a cursor -/

theorem wordAt?_eq_some_iff {text : List Char} {cursor : Int} {start stop : Nat} :
    wordAt? text cursor = some (start, stop) ↔
      start ≤ clampCursor text cursor ∧ clampCursor text cursor ≤ stop ∧
        IsWord text start stop := by
  rw [isWord_around_iff (clampCursor_le text cursor)]
  simp only [wordAt?, Option.ite_none_left_eq_some, Option.some.injEq, Prod.mk.injEq]
  constructor
  · rintro ⟨hne, rfl, rfl⟩
    exact ⟨by omega, rfl, rfl⟩
  · rintro ⟨hlt, rfl, rfl⟩
    exact ⟨Nat.ne_of_lt hlt, rfl, rfl⟩

theorem wordAt?_eq_none_iff {text : List Char} {cursor : Int} :
    wordAt? text cursor = none ↔
      wordBefore text (clampCursor text cursor) = 0 ∧
        wordAfter text (clampCursor text cursor) = 0 := by
  have hle : wordBefore text (clampCursor text cursor) ≤ clampCursor text cursor :=
    ((wordBefore_eq_iff (clampCursor_le text cursor)).mp rfl).1
  simp only [wordAt?, ite_eq_left_iff, reduceCtorEq, imp_false, not_not]
  omega

/-- The word at a cursor is the one range of word characters that touches it and cannot be extended,
where a cursor outside of the line is moved to its nearer end. There is none exactly if no word
character stands at the cursor or before it, and all offsets that a word touches have it as theirs. -/
theorem wordAt?_maximal (text : List Char) (cursor : Int) :
    ∃ o : Nat, (o : Int) = max 0 (min cursor text.length) ∧
      (∀ start stop, wordAt? text cursor = some (start, stop) ↔
        start ≤ o ∧ o ≤ stop ∧ IsWord text start stop) ∧
      (wordAt? text cursor = none ↔
        (∀ c, charBefore? text o = some c → isWordPart c = false) ∧
          ∀ c, text[o]? = some c → isWordPart c = false) ∧
      ∀ start stop, wordAt? text cursor = some (start, stop) → ∀ other : Int,
        start ≤ other → other ≤ stop → wordAt? text other = some (start, stop) := by
  have hlength := clampCursor_le text cursor
  refine ⟨clampCursor text cursor, ?_, fun _ _ => wordAt?_eq_some_iff, ?_, ?_⟩
  · rw [clampCursor]
    omega
  · rw [wordAt?_eq_none_iff, ← not_ne_iff, ← not_ne_iff, wordBefore_ne_zero_iff hlength,
      wordAfter_ne_zero_iff]
    simp
  · intro start stop hword other hstart hstop
    obtain ⟨_, _, hrange⟩ := wordAt?_eq_some_iff.mp hword
    have hfits := hrange.le_length
    refine wordAt?_eq_some_iff.mpr ⟨?_, ?_, hrange⟩ <;>
    · rw [clampCursor]
      omega

end Datapack.Selector
