import Datapack.Diagnostic.Position
import Mathlib.Data.List.TakeWhile

/-! Positions as offsets. A position in a text is a line and a place in it, and it stands for the
number of characters before it. No two positions stand for the same one, and the end of a document
is the one that stands for the last character, also behind line feeds. -/

namespace Datapack.Diagnostic

/-- The lines of a text: its pieces between line feeds, each but the last with the line feed that
ends it. -/
def feedLines (text : List Char) : List (List Char) :=
  let pieces := text.splitOn '\n'
  pieces.dropLast.map (· ++ ['\n']) ++ pieces.getLast?.toList

/-- The line of the position is there and longer than its column, and the lines before it have, with
the column, `offset` characters. -/
def Position.StandsFor (p : Position) (text : List Char) (offset : Nat) : Prop :=
  ∃ line column : Nat, p = ⟨line, column⟩ ∧ ∃ cs, (feedLines text)[line]? = some cs ∧
    column < cs.length ∧ ((feedLines text).take line).flatten.length + column = offset

/-- The character at a position, if there is one. -/
def Position.charIn? (p : Position) (text : List Char) : Option Char := do
  let cs ← (feedLines text)[p.line.toNat]?
  cs[p.column.toNat]?

/-! ### Lines -/

@[simp] theorem feedLines_nil : feedLines [] = [[]] := rfl

theorem feedLines_feed (text : List Char) :
    feedLines ('\n' :: text) = ['\n'] :: feedLines text := by
  have hne := List.splitOn_ne_nil '\n' text
  simp [feedLines, List.splitOn_cons_eq_if_modifyHead, List.dropLast_cons_of_ne_nil hne,
    List.getLast?_cons_of_ne_nil hne]

theorem feedLines_cons {c : Char} (hc : c ≠ '\n') (text : List Char) :
    feedLines (c :: text) = (feedLines text).modifyHead (c :: ·) := by
  have hsplit : (c :: text).splitOn '\n' = (text.splitOn '\n').modifyHead (c :: ·) := by
    simp [List.splitOn_cons_eq_if_modifyHead, hc]
  obtain ⟨piece, more, hpieces⟩ := List.exists_cons_of_ne_nil (List.splitOn_ne_nil '\n' text)
  rw [feedLines, feedLines, hsplit, hpieces]
  cases more <;> simp

theorem feedLines_ne_nil (text : List Char) : feedLines text ≠ [] := by
  induction text with
  | nil => simp
  | cons c text ih =>
      by_cases hc : c = '\n'
      · simp [hc, feedLines_feed]
      · simpa [feedLines_cons hc] using ih

/-- The lines are all of the text. -/
theorem flatten_feedLines (text : List Char) : (feedLines text).flatten = text := by
  induction text with
  | nil => rfl
  | cons c text ih =>
      by_cases hc : c = '\n'
      · rw [hc, feedLines_feed, List.flatten_cons, ih, List.singleton_append]
      · obtain ⟨line, more, hlines⟩ := List.exists_cons_of_ne_nil (feedLines_ne_nil text)
        rw [feedLines_cons hc, hlines, List.modifyHead_cons, List.flatten_cons, List.cons_append,
          ← List.flatten_cons, ← hlines, ih]

/-! ### One position for an offset -/

theorem Position.standsFor_natCast_iff {line column : Nat} {text : List Char} {offset : Nat} :
    (⟨line, column⟩ : Position).StandsFor text offset ↔
      ∃ cs, (feedLines text)[line]? = some cs ∧ column < cs.length ∧
        ((feedLines text).take line).flatten.length + column = offset := by
  constructor
  · rintro ⟨line', column', hplace, h⟩
    obtain ⟨hline, hcolumn⟩ := Position.mk.inj hplace
    rw [Int.natCast_inj.mp hline, Int.natCast_inj.mp hcolumn]
    exact h
  · intro h
    exact ⟨line, column, rfl, h⟩

section

variable {α : Type} {lists : List (List α)} {i : Nat} {xs : List α}

theorem eq_take_append_cons (h : lists[i]? = some xs) :
    lists = lists.take i ++ xs :: lists.drop (i + 1) := by
  have hsplit := List.take_append_drop i lists
  rw [List.drop_eq_getElem?_toList_append, h] at hsplit
  exact hsplit.symm

/-- A list and all before it come before a later list. -/
theorem length_flatten_take_add_le (h : lists[i]? = some xs) {j : Nat} (hij : i < j) :
    (lists.take i).flatten.length + xs.length ≤ (lists.take j).flatten.length := by
  have hcut : (lists.take j)[i]? = some xs := by rw [List.getElem?_take_of_lt hij, h]
  have hsplit := eq_take_append_cons hcut
  rw [List.take_take, Nat.min_eq_left (Nat.le_of_lt hij)] at hsplit
  rw [hsplit, List.flatten_append, List.flatten_cons, List.length_append, List.length_append]
  omega

/-- An entry of a list stands behind all lists before it. -/
theorem getElem?_flatten_add (h : lists[i]? = some xs) {k : Nat} (hk : k < xs.length) :
    lists.flatten[(lists.take i).flatten.length + k]? = xs[k]? := by
  have hflat := congrArg List.flatten (eq_take_append_cons h)
  rw [List.flatten_append, List.flatten_cons] at hflat
  rw [hflat, List.getElem?_append_right (Nat.le_add_right _ _), Nat.add_sub_cancel_left,
    List.getElem?_append_left hk]

end

theorem Position.StandsFor.unique {p q : Position} {text : List Char} {offset : Nat}
    (hp : p.StandsFor text offset) (hq : q.StandsFor text offset) : p = q := by
  obtain ⟨i, k, rfl, xs, hxs, hk, hoffset⟩ := hp
  obtain ⟨j, m, rfl, ys, hys, hm, hoffset'⟩ := hq
  rcases Nat.lt_trichotomy i j with hlt | rfl | hlt
  · have hle := length_flatten_take_add_le hxs hlt
    omega
  · obtain rfl : k = m := by omega
    rfl
  · have hle := length_flatten_take_add_le hys hlt
    omega

/-- The character at a position is the one at the offset that it stands for. -/
theorem Position.StandsFor.charIn?_eq {p : Position} {text : List Char} {offset : Nat}
    (h : p.StandsFor text offset) : p.charIn? text = text[offset]? := by
  obtain ⟨line, column, rfl, cs, hcs, hcolumn, rfl⟩ := h
  have hentry := getElem?_flatten_add hcs hcolumn
  rw [flatten_feedLines] at hentry
  rw [hentry]
  simp [Position.charIn?, hcs]

/-! ### The position of an offset -/

/-- How many characters come after the last line feed. -/
def sinceFeed (before : List Char) : Nat := (before.reverse.takeWhile (· != '\n')).length

theorem lastPosition_eq (text : List Char) :
    lastPosition text = ⟨text.dropLast.count '\n', sinceFeed text.dropLast⟩ := rfl

theorem sinceFeed_feed (before : List Char) : sinceFeed ('\n' :: before) = sinceFeed before := by
  rw [sinceFeed, List.reverse_cons, List.takeWhile_append]
  split
  · next h => simp [sinceFeed, h]
  · rfl

/-- A character in front of a text counts if no line feed comes after it. -/
theorem sinceFeed_cons {c : Char} (hc : c ≠ '\n') (before : List Char) :
    sinceFeed (c :: before) = sinceFeed before + if before.count '\n' = 0 then 1 else 0 := by
  rw [sinceFeed, List.reverse_cons, sinceFeed]
  by_cases hfeed : '\n' ∈ before
  · have hcount : before.count '\n' ≠ 0 := fun h => List.count_eq_zero.mp h hfeed
    have hshort : (before.reverse.takeWhile (· != '\n')).length ≠ before.reverse.length := by
      intro hlength
      have hall := List.mem_takeWhile_imp (p := (· != '\n'))
        (((List.takeWhile_prefix _).eq_of_length hlength).symm ▸ List.mem_reverse.mpr hfeed)
      simp at hall
    rw [List.takeWhile_append, if_neg hshort, if_neg hcount, Nat.add_zero]
  · have hcount : before.count '\n' = 0 := List.count_eq_zero.mpr hfeed
    have hall : ∀ d ∈ before.reverse, d != '\n' := by
      intro d hd
      simpa using fun h : d = '\n' => hfeed (h ▸ List.mem_reverse.mp hd)
    rw [List.takeWhile_append_of_pos hall, if_pos hcount, List.length_append]
    simp [hc, List.takeWhile_eq_self_iff.mpr hall]

/-- The line feeds before a character, and the characters since the last of them, are its position:
a line feed in front moves its line by one, and any other character moves it within the first
line. -/
theorem standsFor_length (before rest : List Char) (c : Char) :
    (⟨before.count '\n', sinceFeed before⟩ : Position).StandsFor (before ++ c :: rest)
      before.length := by
  rw [Position.standsFor_natCast_iff]
  induction before with
  | nil =>
      by_cases hc : c = '\n'
      · exact ⟨['\n'], by simp [hc, feedLines_feed], by simp [sinceFeed], by simp [sinceFeed]⟩
      · obtain ⟨line, more, hlines⟩ := List.exists_cons_of_ne_nil (feedLines_ne_nil rest)
        exact ⟨c :: line, by simp [feedLines_cons hc, hlines], by simp [sinceFeed],
          by simp [sinceFeed]⟩
  | cons d before ih =>
      obtain ⟨cs, hcs, hcolumn, hoffset⟩ := ih
      rw [List.cons_append, List.length_cons, ← hoffset]
      by_cases hd : d = '\n'
      · subst d
        rw [feedLines_feed, sinceFeed_feed, List.count_cons_self]
        refine ⟨cs, hcs, hcolumn, ?_⟩
        simp only [List.take_succ_cons, List.flatten_cons, List.length_append,
          List.length_singleton]
        omega
      · obtain ⟨first, more, hlines⟩ :=
          List.exists_cons_of_ne_nil (feedLines_ne_nil (before ++ c :: rest))
        rw [hlines] at hcs ⊢
        rw [feedLines_cons hd, hlines, List.modifyHead_cons, sinceFeed_cons hd,
          List.count_cons_of_ne hd]
        cases hcount : before.count '\n' with
        | zero =>
            obtain rfl : first = cs := by simpa [hcount] using hcs
            exact ⟨d :: first, rfl, by simpa using hcolumn, by simp⟩
        | succ line =>
            rw [hcount, List.getElem?_cons_succ] at hcs
            refine ⟨cs, hcs, by simpa using hcolumn, ?_⟩
            simp only [List.take_succ_cons, List.flatten_cons, List.length_append,
              List.length_cons, Nat.add_one_ne_zero, if_false]
            omega

theorem Position.StandsFor.lt_length {p : Position} {text : List Char} {offset : Nat}
    (h : p.StandsFor text offset) : offset < text.length := by
  obtain ⟨line, column, rfl, cs, hcs, hcolumn, rfl⟩ := h
  have hentry := getElem?_flatten_add hcs hcolumn
  rw [flatten_feedLines, List.getElem?_eq_getElem hcolumn] at hentry
  exact (List.getElem?_eq_some_iff.mp hentry).1

/-- Every character has exactly one position. -/
theorem Position.standsFor_iff {p : Position} {text : List Char} {offset : Nat} :
    p.StandsFor text offset ↔ offset < text.length ∧
      p = ⟨(text.take offset).count '\n', sinceFeed (text.take offset)⟩ := by
  have hposition (hoffset : offset < text.length) :
      (⟨(text.take offset).count '\n', sinceFeed (text.take offset)⟩ : Position).StandsFor text
        offset := by
    have h := standsFor_length (text.take offset) (text.drop (offset + 1)) text[offset]
    rwa [← List.drop_eq_getElem_cons, List.take_append_drop, List.length_take,
      Nat.min_eq_left (Nat.le_of_lt hoffset)] at h
  constructor
  · intro h
    exact ⟨h.lt_length, h.unique (hposition h.lt_length)⟩
  · rintro ⟨hoffset, rfl⟩
    exact hposition hoffset

/-! ### The end of a document -/

theorem standsFor_last_iff {p : Position} {text : List Char} :
    p.StandsFor text (text.length - 1) ↔ text ≠ [] ∧ p = lastPosition text := by
  rw [Position.standsFor_iff, lastPosition_eq, ← List.dropLast_eq_take, ← List.length_pos_iff]
  exact and_congr_left fun _ => by omega

theorem charIn?_lastPosition (text : List Char) :
    (lastPosition text).charIn? text = text.getLast? := by
  cases text with
  | nil => rfl
  | cons c text =>
      have hlast := standsFor_last_iff.mpr ⟨List.cons_ne_nil c text, rfl⟩
      rw [hlast.charIn?_eq, List.getLast?_eq_getElem?]

/-- The end of a document is, for every text, the one position that stands for the last character,
and no position does if there is none; the character there is the last one. Findings at the end of
the document are there, whatever their column. -/
theorem end_stands_for_last_character (text : String) (column : Int) :
    (∀ place : Position, place.StandsFor text.toList (text.length - 1) ↔
      text ≠ "" ∧ place = lastPosition text.toList) ∧
    positionOf endMark column (some text) = lastPosition text.toList ∧
    (positionOf endMark column (some text)).charIn? text.toList = text.toList.getLast? := by
  refine ⟨fun place => ?_, rfl, charIn?_lastPosition text.toList⟩
  rw [← String.length_toList, standsFor_last_iff, ne_eq, ne_eq, String.toList_eq_nil_iff]

/-- Line feeds at the end are characters of the lines that they end. -/
example :
    lastPosition "a\n\n".toList = ⟨1, 0⟩ ∧ lastPosition "\n".toList = ⟨0, 0⟩ ∧
      lastPosition "abc\ndef".toList = ⟨1, 2⟩ := by
  decide

end Datapack.Diagnostic
