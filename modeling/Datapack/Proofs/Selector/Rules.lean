import Datapack.Proofs.Selector.Words
import Datapack.Selector.Context
import Mathlib.Data.List.DropRight
import Mathlib.Data.List.Induction

/-! What the rules of a completion context ask for. They are put in terms of offsets: the last
occurrence of a character, and the word that ends at an offset. -/

namespace Datapack.Selector

open Text

/-! ### Last occurrences -/

theorem lastIndex?_concat (c : Char) (cs : List Char) (d : Char) :
    lastIndex? c (cs ++ [d]) = if d = c then some cs.length else lastIndex? c cs := by
  by_cases h : d = c
  · simp [lastIndex?, List.idxOf?_cons, h]
  · have hbeq : (d == c) = false := by simpa using h
    simp only [lastIndex?, List.reverse_append, List.reverse_singleton, List.singleton_append,
      List.idxOf?_cons, hbeq, Bool.false_eq_true, if_false, Option.map_map, h, List.length_append,
      List.length_singleton]
    congr 1
    funext i
    simp only [Function.comp_apply]
    omega

theorem lastIndex?_append (c : Char) (xs ys : List Char) :
    lastIndex? c (xs ++ ys) =
      ((lastIndex? c ys).map (xs.length + ·)).or (lastIndex? c xs) := by
  induction ys using List.reverseRecOn with
  | nil => simp [lastIndex?]
  | append_singleton ys d ih =>
      rw [← List.append_assoc, lastIndex?_concat, lastIndex?_concat, ih]
      by_cases h : d = c <;> simp [h]

theorem lastIndex?_eq_none_iff {c : Char} {cs : List Char} : lastIndex? c cs = none ↔ c ∉ cs := by
  induction cs using List.reverseRecOn with
  | nil => simp [lastIndex?]
  | append_singleton cs d ih =>
      rw [lastIndex?_concat]
      by_cases h : d = c
      · simp [h]
      · have h' : ¬c = d := fun e => h e.symm
        simp [h, h', ih]

theorem lastIndex?_append_of_not_mem {c : Char} {back : List Char} (h : c ∉ back)
    (front : List Char) : lastIndex? c (front ++ back) = lastIndex? c front := by
  rw [lastIndex?_append, lastIndex?_eq_none_iff.mpr h]
  rfl

theorem lastIndex?_append_cons {c : Char} {back : List Char} (h : c ∉ back) (front : List Char) :
    lastIndex? c (front ++ c :: back) = some front.length := by
  rw [← List.singleton_append, ← List.append_assoc, lastIndex?_append_of_not_mem h,
    lastIndex?_concat, if_pos rfl]

/-- The last occurrence of a character splits a text into what stands before it and a rest without
the character. -/
theorem lastIndex?_eq_some_iff {c : Char} {cs : List Char} {i : Nat} :
    lastIndex? c cs = some i ↔
      ∃ front back, cs = front ++ c :: back ∧ c ∉ back ∧ i = front.length := by
  constructor
  · intro h
    induction cs using List.reverseRecOn with
    | nil => simp [lastIndex?] at h
    | append_singleton cs d ih =>
        rw [lastIndex?_concat] at h
        split at h
        · next hd =>
            subst d
            exact ⟨cs, [], rfl, by simp, (Option.some.inj h).symm⟩
        · next hd =>
            obtain ⟨front, back, rfl, hback, hi⟩ := ih h
            refine ⟨front, back ++ [d], by simp, ?_, hi⟩
            simpa [hback] using fun e => hd e.symm
  · rintro ⟨front, back, rfl, hback, rfl⟩
    exact lastIndex?_append_cons hback front

theorem lt_of_lastIndex? {c : Char} {cs : List Char} {i : Nat} (h : lastIndex? c cs = some i) :
    i < cs.length := by
  obtain ⟨front, back, rfl, _, rfl⟩ := lastIndex?_eq_some_iff.mp h
  simp

theorem precedes_some_iff {i? : Option Nat} {j : Nat} :
    precedes i? (some j) ↔ ∀ i, i? = some i → i < j := by
  cases i? <;> simp [precedes]

theorem lastIndex?_append_of_mem {c : Char} {back : List Char} (h : c ∈ back)
    (front : List Char) : ∃ i, lastIndex? c (front ++ back) = some (front.length + i) := by
  obtain ⟨i, hi⟩ := Option.ne_none_iff_exists'.mp fun hnone => lastIndex?_eq_none_iff.mp hnone h
  exact ⟨i, by simp [lastIndex?_append, hi]⟩

/-- Another character comes last before an offset exactly if it does not occur after it. -/
theorem precedes_lastIndex?_iff {c d : Char} (hne : c ≠ d) (front back : List Char) :
    precedes (lastIndex? c (front ++ d :: back)) (some front.length) ↔ c ∉ back := by
  rw [precedes_some_iff]
  constructor
  · intro h hmem
    obtain ⟨i, hi⟩ := lastIndex?_append_of_mem (List.mem_cons_of_mem d hmem) front
    have hlt := h _ hi
    omega
  · intro hback i hi
    rw [lastIndex?_append_of_not_mem (by simp [hne, hback])] at hi
    exact lt_of_lastIndex? hi

/-! ### Runs of characters at the end -/

theorem rdropWhile_append_of_pos {p : Char → Bool} {tail : List Char} (h : ∀ c ∈ tail, p c)
    (front : List Char) : (front ++ tail).rdropWhile p = front.rdropWhile p := by
  rw [List.rdropWhile, List.reverse_append, List.dropWhile_append_of_pos (by simpa using h),
    List.rdropWhile]

theorem rtakeWhile_append_of_pos {p : Char → Bool} {tail : List Char} (h : ∀ c ∈ tail, p c)
    (front : List Char) : (front ++ tail).rtakeWhile p = front.rtakeWhile p ++ tail := by
  rw [List.rtakeWhile, List.reverse_append, List.takeWhile_append_of_pos (by simpa using h),
    List.reverse_append, List.reverse_reverse, List.rtakeWhile]

theorem wordBefore_eq (line : List Char) (o : Nat) :
    wordBefore line o = ((line.take o).rtakeWhile isWordPart).length := by
  simp [wordBefore, List.rtakeWhile]

theorem trimEnd_eq (cs : List Char) : trimEnd cs = cs.rdropWhile isBlank := rfl

/-- The text before an offset is cut where the word that ends there starts. -/
theorem take_sub_wordBefore {line : List Char} {o : Nat} (ho : o ≤ line.length) :
    line.take (o - wordBefore line o) = (line.take o).rdropWhile isWordPart := by
  have hsplit : (line.take o).rdropWhile isWordPart ++ (line.take o).rtakeWhile isWordPart =
      line.take o := List.rdropWhile_append_rtakeWhile
  have hlength : ((line.take o).rdropWhile isWordPart).length = o - wordBefore line o := by
    have h := congrArg List.length hsplit
    rw [List.length_append, List.length_take, Nat.min_eq_left ho] at h
    rw [wordBefore_eq]
    omega
  have hprefix := (List.rdropWhile_prefix isWordPart (line.take o)).trans (List.take_prefix o line)
  rw [← hlength]
  exact (List.prefix_iff_eq_take.mp hprefix).symm

/-! ### Words behind a character -/

/-- A text up to an offset, cut at a character before it. -/
theorem take_eq_of_getElem? {text : List Char} {o d : Nat} {c : Char} (hc : text[d]? = some c)
    (hd : d < o) : text.take o = text.take d ++ c :: (text.take o).drop (d + 1) := by
  have hcut : (text.take o)[d]? = some c := by rw [List.getElem?_take_of_lt hd, hc]
  have hsplit := List.take_append_drop d (text.take o)
  rw [List.drop_eq_getElem?_toList_append, hcut, List.take_take, Nat.min_eq_left hd.le] at hsplit
  exact hsplit.symm

/-- A word that reaches from behind another character to an offset is the word that ends there. -/
theorem wordBefore_of_mark {text : List Char} {o d : Nat} {mark : Char} (ho : o ≤ text.length)
    (hclass : isWordPart mark = false) (hmark : text[d]? = some mark) (hd : d < o)
    (hword : ∀ c ∈ (text.take o).drop (d + 1), isWordPart c) :
    wordBefore text o = o - (d + 1) := by
  rw [wordBefore_eq_iff ho, Nat.sub_sub_self hd]
  refine ⟨Nat.sub_le o (d + 1), hword, fun c hc => ?_⟩
  obtain ⟨_, ⟨⟩, hc⟩ := charBefore?_eq_some_iff.mp hc
  rw [hmark, Option.some.injEq] at hc
  rwa [← hc]

/-- Word characters reach from `start` up to the cursor or, where `start` is the cursor, from there
on. -/
def TouchesWordFrom (text : List Char) (cursor start : Nat) : Prop :=
  start ≤ cursor ∧ (∀ c ∈ (text.take cursor).drop start, isWordPart c) ∧
    (start < cursor ∨ ∃ c, text[cursor]? = some c ∧ isWordPart c)

/-- The word at a cursor starts directly behind a character that is no part of a word exactly if
from there on a word touches the cursor. -/
theorem wordAt?_behind_iff {text : List Char} {cursor d : Nat} {mark : Char}
    (hcursor : cursor ≤ text.length) (hclass : isWordPart mark = false)
    (hmark : text[d]? = some mark) :
    (∃ stop, wordAt? text cursor = some (d + 1, stop)) ↔ TouchesWordFrom text cursor (d + 1) := by
  simp only [wordAt?, clampCursor_natCast hcursor, Option.ite_none_left_eq_some, Option.some.injEq,
    Prod.mk.injEq]
  constructor
  · rintro ⟨stop, hne, hstart, rfl⟩
    refine ⟨by omega, ?_, ?_⟩
    · rw [← hstart]
      exact ((wordBefore_eq_iff hcursor).mp rfl).2.1
    · by_cases hlt : d + 1 < cursor
      · exact .inl hlt
      · exact .inr (wordAfter_ne_zero_iff.mp (by omega))
  · rintro ⟨hle, hword, htouch⟩
    have hbefore := wordBefore_of_mark hcursor hclass hmark (by omega) hword
    refine ⟨_, ?_, by omega, rfl⟩
    rcases htouch with hlt | hafter
    · omega
    · have hafter := wordAfter_ne_zero_iff.mpr hafter
      omega

/-! ### The rules -/

theorem paramRule_eq_some_iff {line : List Char} {cursor : Nat} {context : Context} :
    paramRule line cursor = some context ↔
      ∃ b, scan (line.take cursor) = .inBracket b ∧ context = .param b := by
  rw [paramRule]
  cases scan (line.take cursor) <;> simp [eq_comm]

theorem memberRule_eq_some_iff {line : List Char} {cursor : Nat} {trigger : Option String}
    {context : Context} :
    memberRule line cursor trigger = some context ↔
      ∃ d, memberDot? line cursor trigger = some d ∧ (scan (line.take d)).isComplete ∧
        ownsGroups (line.take d) ∧ context = .member d := by
  simp only [memberRule, Option.bind_eq_bind, Option.bind_eq_some_iff,
    Option.ite_none_right_eq_some, Bool.and_eq_true, Option.some.injEq, and_assoc]
  simp only [eq_comm]

theorem exists_target_of_targetRule {line : List Char} {cursor : Nat} {trigger : Option String}
    {context : Context} (h : targetRule line cursor trigger = some context) :
    ∃ a, context = .target a := by
  unfold targetRule at h
  split at h
  · exact ⟨cursor, (Option.some.inj h).symm⟩
  · split at h
    · next start stop _ =>
        split at h
        · exact ⟨start, (Option.some.inj h).symm⟩
        · cases h
    · cases h

/-- A rule decides only if the rules before it do not apply. -/
theorem contextAt_eq_some_iff {line : List Char} {cursor : Nat} (hcursor : cursor ≤ line.length)
    {trigger : Option String} {context : Context} :
    contextAt line cursor trigger = some context ↔
      (admits ["[", ","] trigger ∧ paramRule line cursor = some context) ∨
      ((admits ["[", ","] trigger → paramRule line cursor = none) ∧
        ((admits ["."] trigger ∧ memberRule line cursor trigger = some context) ∨
        ((admits ["."] trigger → memberRule line cursor trigger = none) ∧
          admits ["@"] trigger ∧ targetRule line cursor trigger = some context))) := by
  simp [contextAt, clampCursor_natCast hcursor]

theorem contextAt_eq_param_iff {line : List Char} {cursor : Nat} (hcursor : cursor ≤ line.length)
    {trigger : Option String} (htrigger : admits ["[", ","] trigger) {b : Nat} :
    contextAt line cursor trigger = some (.param b) ↔ scan (line.take cursor) = .inBracket b := by
  rw [contextAt_eq_some_iff hcursor]
  constructor
  · rintro (⟨_, hparam⟩ | ⟨_, ⟨_, hmember⟩ | ⟨_, _, htarget⟩⟩)
    · obtain ⟨b', hscan, hb⟩ := paramRule_eq_some_iff.mp hparam
      rwa [Context.param.inj hb]
    · obtain ⟨d, _, _, _, hd⟩ := memberRule_eq_some_iff.mp hmember
      cases hd
    · obtain ⟨a, ha⟩ := exists_target_of_targetRule htarget
      cases ha
  · intro hscan
    exact .inl ⟨htrigger, paramRule_eq_some_iff.mpr ⟨b, hscan, rfl⟩⟩

theorem contextAt_eq_member_iff {line : List Char} {cursor : Nat} (hcursor : cursor ≤ line.length)
    {trigger : Option String} (htrigger : admits ["."] trigger) {d : Nat} :
    contextAt line cursor trigger = some (.member d) ↔
      (admits ["[", ","] trigger → paramRule line cursor = none) ∧
        memberRule line cursor trigger = some (.member d) := by
  rw [contextAt_eq_some_iff hcursor]
  constructor
  · rintro (⟨_, hparam⟩ | ⟨hnone, ⟨_, hmember⟩ | ⟨_, _, htarget⟩⟩)
    · obtain ⟨b, _, hb⟩ := paramRule_eq_some_iff.mp hparam
      cases hb
    · exact ⟨hnone, hmember⟩
    · obtain ⟨a, ha⟩ := exists_target_of_targetRule htarget
      cases ha
  · rintro ⟨hnone, hmember⟩
    exact .inr ⟨hnone, .inl ⟨htrigger, hmember⟩⟩

end Datapack.Selector
