import Datapack.Proofs.Selector.Grammar
import Datapack.Proofs.Selector.Rules

/-! Parameters by offsets. The machine completes parameters where the last `[` of the text before
the cursor comes after the last `]` and directly behind the head of a selector, unless the `@` of
that head stands itself in an open group: a bracket in there is a list. -/

namespace Datapack.Selector

open Text

/-! ### Heads by offsets -/

theorem rtakeWhile_mark (before : List Char) {blanks : List Char} (h : ∀ c ∈ blanks, isBlank c) :
    (before ++ '@' :: blanks).rtakeWhile isWordPart = [] := by
  induction blanks using List.reverseRecOn with
  | nil => exact List.rtakeWhile_concat_neg _ _ _ (by simp [delimiter_class '@' (by simp)])
  | append_singleton blanks c _ =>
      have hc : isWordPart c = false := isWordPart_of_isBlank (h c (by simp))
      rw [← List.cons_append, ← List.append_assoc]
      exact List.rtakeWhile_concat_neg _ _ _ (by simp [hc])

/-- The word at the end of a text that ends in a head is the head, and the blanks before it are all
that is trimmed. -/
theorem split_head (before : List Char) {blanks head : List Char}
    (hblanks : ∀ c ∈ blanks, isBlank c) (hhead : ∀ c ∈ head, isWordPart c) :
    (before ++ '@' :: (blanks ++ head)).rtakeWhile isWordPart = head ∧
      trimEnd ((before ++ '@' :: (blanks ++ head)).rdropWhile isWordPart) = before ++ ['@'] := by
  have hassoc : before ++ '@' :: (blanks ++ head) = before ++ '@' :: blanks ++ head := by simp
  have hmark := rtakeWhile_mark before hblanks
  have hkept : (before ++ '@' :: blanks).rdropWhile isWordPart = before ++ '@' :: blanks := by
    have hjoin := List.rdropWhile_append_rtakeWhile (p := isWordPart) (l := before ++ '@' :: blanks)
    rwa [hmark, List.append_nil] at hjoin
  refine ⟨?_, ?_⟩
  · rw [hassoc, rtakeWhile_append_of_pos hhead, hmark, List.nil_append]
  · rw [hassoc, rdropWhile_append_of_pos hhead, hkept, trimEnd_eq, ← List.singleton_append,
      ← List.append_assoc, rdropWhile_append_of_pos hblanks]
    exact List.rdropWhile_concat_neg _ _ _ (by simp [delimiter_class '@' (by simp)])

/-- The `@` of the head word that ends at an offset: only blanks stand between the two. -/
def headMark? (cs : List Char) (o : Nat) : Option Nat :=
  let front := trimEnd (cs.take (o - wordBefore cs o))
  if wordBefore cs o ≠ 0 ∧ front.getLast? = some '@' then some (front.length - 1) else none

theorem headMark?_eq_some_iff {cs : List Char} {o a : Nat} (ho : o ≤ cs.length) :
    headMark? cs o = some a ↔
      ∃ before blanks head, cs.take o = before ++ '@' :: (blanks ++ head) ∧
        (∀ c ∈ blanks, isBlank c) ∧ (∀ c ∈ head, isWordPart c) ∧ head ≠ [] ∧
        a = before.length := by
  rw [headMark?, take_sub_wordBefore ho, wordBefore_eq]
  generalize cs.take o = front
  simp only [Option.ite_none_right_eq_some, Option.some.injEq]
  constructor
  · rintro ⟨⟨hword, hmark⟩, ha⟩
    obtain ⟨before, hbefore⟩ := List.getLast?_eq_some_iff.mp hmark
    have hrest : front.rdropWhile isWordPart =
        before ++ ['@'] ++ (front.rdropWhile isWordPart).rtakeWhile isBlank := by
      rw [← hbefore, trimEnd_eq, List.rdropWhile_append_rtakeWhile]
    refine ⟨before, (front.rdropWhile isWordPart).rtakeWhile isBlank, front.rtakeWhile isWordPart,
      ?_, fun c => List.mem_rtakeWhile_imp, fun c => List.mem_rtakeWhile_imp, ?_, ?_⟩
    · calc front
        _ = front.rdropWhile isWordPart ++ front.rtakeWhile isWordPart :=
            List.rdropWhile_append_rtakeWhile.symm
        _ = before ++ ['@'] ++ (front.rdropWhile isWordPart).rtakeWhile isBlank ++
              front.rtakeWhile isWordPart := by rw [← hrest]
        _ = _ := by simp
    · exact fun hnil => hword (by simp [hnil])
    · rw [← ha, hbefore]
      simp
  · rintro ⟨before, blanks, head, rfl, hblanks, hhead, hne, rfl⟩
    obtain ⟨hword, hmark⟩ := split_head before hblanks hhead
    rw [hword, hmark]
    refine ⟨⟨?_, by simp⟩, by simp⟩
    simpa using hne

/-! ### The index rule -/

/-- The last `[` is at offset `b`, after the last `]` and directly behind a head word whose `@` is
at offset `a`. -/
def IndexRule (cs : List Char) (b a : Nat) : Prop :=
  lastIndex? '[' cs = some b ∧ precedes (lastIndex? ']' cs) (some b) ∧ headMark? cs b = some a

instance (cs : List Char) (b a : Nat) : Decidable (IndexRule cs b a) :=
  inferInstanceAs (Decidable (_ ∧ _ ∧ _))

theorem IndexRule.lt {cs : List Char} {b a : Nat} (h : IndexRule cs b a) :
    a < b ∧ b < cs.length := by
  obtain ⟨hbracket, _, hmark⟩ := h
  have hb := lt_of_lastIndex? hbracket
  obtain ⟨before, blanks, head, hfront, _, _, _, rfl⟩ := (headMark?_eq_some_iff hb.le).mp hmark
  have hlength := congrArg List.length hfront
  rw [List.length_take, Nat.min_eq_left hb.le, List.length_append, List.length_cons] at hlength
  exact ⟨by omega, hb⟩

theorem endsInGroup_iff_indexRule {cs : List Char} {b : Nat} :
    EndsInGroup cs b ↔ ∃ a, IndexRule cs b a ∧ (scan (cs.take a)).isOpen = false := by
  constructor
  · rintro ⟨before, blanks, head, body, rfl, hblanks, hhead, hne, hbody, rfl, hopen⟩
    refine ⟨before.length, ⟨?_, ?_, ?_⟩, ?_⟩
    · exact lastIndex?_append_cons (fun h => (hbody _ h).1 rfl) _
    · exact (precedes_lastIndex?_iff (by decide) _ _).mpr fun h => (hbody _ h).2 rfl
    · rw [headMark?_eq_some_iff (by simp)]
      exact ⟨before, blanks, head, List.take_left, hblanks, hhead, hne, rfl⟩
    · rwa [List.append_assoc, List.take_left]
  · rintro ⟨a, ⟨hbracket, hclose, hmark⟩, hopen⟩
    obtain ⟨front, body, rfl, hbody, rfl⟩ := lastIndex?_eq_some_iff.mp hbracket
    rw [precedes_lastIndex?_iff (by decide)] at hclose
    rw [headMark?_eq_some_iff (by simp), List.take_left] at hmark
    obtain ⟨before, blanks, head, rfl, hblanks, hhead, hne, rfl⟩ := hmark
    refine ⟨before, blanks, head, body, rfl, hblanks, hhead, hne, ?_, rfl, ?_⟩
    · intro c hc
      exact ⟨fun h => hbody (h ▸ hc), fun h => hclose (h ▸ hc)⟩
    · rwa [List.append_assoc, List.take_left] at hopen

/-- Parameters are completed, with the bracket at offset `b`, exactly if the index rule holds there
and the `@` of the head is not in an open group. -/
theorem contextAt_param_iff_indexRule {line : List Char} {cursor : Nat}
    (hcursor : cursor ≤ line.length) {trigger : Option String}
    (htrigger : trigger = none ∨ trigger = some "[" ∨ trigger = some ",") (b : Nat) :
    contextAt line cursor trigger = some (.param b) ↔
      ∃ a, IndexRule (line.take cursor) b a ∧ (scan (line.take a)).isOpen = false := by
  have hadmits : admits ["[", ","] trigger := by
    rcases htrigger with rfl | rfl | rfl <;> decide
  rw [contextAt_eq_param_iff hcursor hadmits, scan_eq_inBracket_iff, endsInGroup_iff_indexRule]
  refine exists_congr fun a => and_congr_right fun hrule => ?_
  obtain ⟨hab, hb⟩ := hrule.lt
  rw [List.length_take] at hb
  rw [List.take_take, Nat.min_eq_left (by omega)]

/-- A list inside a group ends it, and a further selector opens a group of its own. -/
def afterList : List Char := "@e[tags=[a]] @ pig[ta".toList

theorem contextAt_param_of_afterList :
    21 ≤ afterList.length ∧ contextAt afterList 21 (some ",") = some (.param 18) := by
  have hcursor : 21 ≤ afterList.length := by decide
  have hrule : IndexRule (afterList.take 21) 18 13 := by decide +kernel
  have houtside : (scan (afterList.take 13)).isOpen = false := by decide +kernel
  exact ⟨hcursor, (contextAt_param_iff_indexRule hcursor (.inr (.inr rfl)) 18).mpr
    ⟨13, hrule, houtside⟩⟩

/-- The index rule alone does not tell where parameters are completed: it holds for a selector in
the group of another one. -/
theorem nested_selector_fails_indexRule :
    ¬∀ (line : List Char) (cursor : Nat) (trigger : Option String) (b : Nat),
      cursor ≤ line.length → trigger = none ∨ trigger = some "[" ∨ trigger = some "," →
      (contextAt line cursor trigger = some (.param b) ↔
        ∃ a, IndexRule (line.take cursor) b a) := by
  intro hall
  have hnested := (hall "@e[@a[".toList 6 none 5 (by decide) (.inl rfl)).mpr ⟨3, by decide +kernel⟩
  exact absurd hnested (by decide +kernel)

end Datapack.Selector
