import Datapack.Proofs.Selector.Grammar
import Datapack.Proofs.Selector.Rules

/-! Members in closed form. A dot completes members behind a selector without a group, if no group
comes before it, and behind a selector with a closed group that holds no `@`. Whether the `@` comes
after the `]` before the last one is never what decides. -/

namespace Datapack.Selector

open Text

/-! ### The dot -/

theorem memberDot?_none_iff {text : List Char} {cursor : Nat} (hcursor : cursor ≤ text.length)
    (hdot : charBefore? text cursor ≠ some '.') {d : Nat} :
    memberDot? text cursor none = some d ↔
      text[d]? = some '.' ∧ d + 1 < cursor ∧
        ∀ c ∈ (text.take cursor).drop (d + 1), isWordPart c := by
  have hclass : isWordPart '.' = false := (delimiter_class '.' (by simp)).2
  simp only [memberDot?, hdot, if_false, Option.isNone_none, if_true]
  constructor
  · intro h
    split at h
    · next start stop hword =>
        obtain ⟨hstart, hd⟩ := Option.ite_none_right_eq_some.mp h
        obtain ⟨d', rfl, hchar⟩ := charBefore?_eq_some_iff.mp hstart
        obtain rfl : d' = d := by simpa using hd
        obtain ⟨hle, hbehind, _⟩ := (wordAt?_behind_iff hcursor hclass hchar).mp ⟨stop, hword⟩
        -- A word that only starts at the cursor would need the dot directly before the cursor.
        have hne : d' + 1 ≠ cursor := by
          rintro rfl
          exact hdot hstart
        exact ⟨hchar, by omega, hbehind⟩
    · cases h
  · rintro ⟨hchar, hlt, hword⟩
    obtain ⟨stop, hat⟩ := (wordAt?_behind_iff hcursor hclass hchar).mpr
      ⟨by omega, hword, .inl hlt⟩
    have hstart : charBefore? text (d + 1) = some '.' := charBefore?_eq_some_iff.mpr ⟨d, rfl, hchar⟩
    simp [hat, hstart]

/-- The dot is directly before the cursor or, if nothing was typed, directly before a word that ends
at the cursor. -/
theorem memberDot?_eq_some_iff {text : List Char} {cursor : Nat} (hcursor : cursor ≤ text.length)
    {trigger : Option String} {d : Nat} :
    memberDot? text cursor trigger = some d ↔
      text[d]? = some '.' ∧
        (d + 1 = cursor ∨
          trigger = none ∧ d + 1 < cursor ∧
            ∀ c ∈ (text.take cursor).drop (d + 1), isWordPart c) := by
  by_cases hdot : charBefore? text cursor = some '.'
  · have hvalue : memberDot? text cursor trigger = some (cursor - 1) := by simp [memberDot?, hdot]
    obtain ⟨e, rfl, hchar⟩ := charBefore?_eq_some_iff.mp hdot
    rw [hvalue, Option.some.injEq, Nat.add_sub_cancel]
    constructor
    · rintro rfl
      exact ⟨hchar, .inl rfl⟩
    · rintro ⟨_, hd | ⟨_, hlt, hword⟩⟩
      · omega
      · have hmem : '.' ∈ (text.take (e + 1)).drop (d + 1) := by
          apply List.mem_of_getElem? (i := e - (d + 1))
          rw [List.getElem?_drop, Nat.add_sub_cancel' (by omega),
            List.getElem?_take_of_lt (Nat.lt_succ_self e), hchar]
        exact absurd rfl (ne_of_isWordPart (hword '.' hmem) (by simp))
  · have hnot : ¬(text[d]? = some '.' ∧ d + 1 = cursor) := by
      rintro ⟨hd, rfl⟩
      exact hdot (charBefore?_eq_some_iff.mpr ⟨d, rfl, hd⟩)
    cases trigger with
    | none =>
        rw [memberDot?_none_iff hcursor hdot]
        tauto
    | some t =>
        have hvalue : memberDot? text cursor (some t) = none := by simp [memberDot?, hdot]
        simp only [hvalue, reduceCtorEq, false_and, or_false, false_iff]
        exact hnot

/-! ### Selectors that own their groups -/

/-- The text ends in a selector without a group, and no group comes before it. -/
def EndsInBareSelector (cs : List Char) : Prop :=
  ∃ before blanks head, cs = before ++ '@' :: (blanks ++ head) ∧
    (∀ c ∈ blanks, isBlank c) ∧ (∀ c ∈ head, isWordPart c) ∧ head ≠ [] ∧ '[' ∉ before

/-- The text ends in a selector with a closed group without `@` in it, and blanks. -/
def EndsInGroupedSelector (cs : List Char) : Prop :=
  ∃ before blanks head body trailing,
    cs = before ++ '@' :: (blanks ++ head) ++ '[' :: (body ++ ']' :: trailing) ∧
    (∀ c ∈ blanks, isBlank c) ∧ (∀ c ∈ head, isWordPart c) ∧ head ≠ [] ∧
    (∀ c ∈ body, c ≠ '[' ∧ c ≠ ']' ∧ c ≠ '@') ∧ (∀ c ∈ trailing, isBlank c) ∧
    (scan before).isOpen = false

theorem lt_of_previousClose? {cs : List Char} {i : Nat} (h : previousClose? cs = some i) :
    ∃ k, lastIndex? ']' cs = some k ∧ i < k := by
  have hi := lt_of_lastIndex? h
  rw [List.length_take] at hi
  cases hk : lastIndex? ']' cs with
  | none => simp [hk] at hi
  | some k => exact ⟨k, rfl, by simp [hk] at hi; omega⟩

theorem previousClose?_append_cons {trailing : List Char} (h : ']' ∉ trailing)
    (inner : List Char) : previousClose? (inner ++ ']' :: trailing) = lastIndex? ']' inner := by
  rw [previousClose?, lastIndex?_append_cons h, Option.getD_some, List.take_left]

/-- The `@` of a complete selector comes after the `]` before the last one. -/
theorem precedes_previousClose? {cs : List Char} (h : (scan cs).isComplete) :
    precedes (previousClose? cs) (lastIndex? '@' cs) := by
  cases hs : scan cs with
  | outside => simp [hs, Scan.isComplete] at h
  | inBracket b => simp [hs, Scan.isComplete] at h
  | afterAt n =>
      obtain ⟨before, blanks, head, rfl, hblanks, hhead, _, _⟩ := scan_eq_afterAt_iff.mp hs
      have hat : '@' ∈ '@' :: (blanks ++ head) := List.mem_cons_self
      obtain ⟨a, ha⟩ := lastIndex?_append_of_mem hat before
      have hclose : ']' ∉ '@' :: (blanks ++ head) := by
        simp [not_mem_blanks hblanks, not_mem_word hhead]
      rw [ha, precedes_some_iff]
      intro i hi
      obtain ⟨k, hk, hik⟩ := lt_of_previousClose? hi
      rw [lastIndex?_append_of_not_mem hclose] at hk
      have hkb := lt_of_lastIndex? hk
      omega
  | afterClose =>
      obtain ⟨before, blanks, head, body, trailing, rfl, hblanks, hhead, _, hbody, htrailing, _⟩ :=
        endsInClose_iff.mp (scan_eq_afterClose_iff.mp hs)
      have hclose : ']' ∉ '@' :: (blanks ++ head ++ '[' :: body) := by
        simpa [not_mem_blanks hblanks, not_mem_word hhead] using fun hmem => (hbody _ hmem).2 rfl
      have hassoc : before ++ '@' :: (blanks ++ head) ++ '[' :: (body ++ ']' :: trailing) =
          before ++ '@' :: (blanks ++ head ++ '[' :: body) ++ ']' :: trailing := by simp
      have hat : '@' ∈ '@' :: (blanks ++ head) ++ '[' :: (body ++ ']' :: trailing) :=
        List.mem_cons_self
      obtain ⟨a, ha⟩ := lastIndex?_append_of_mem hat before
      rw [List.append_assoc, ha, ← List.append_assoc, hassoc,
        previousClose?_append_cons (not_mem_blanks htrailing (by simp)),
        lastIndex?_append_of_not_mem hclose, precedes_some_iff]
      intro i hi
      have hib := lt_of_lastIndex? hi
      omega

theorem ownsGroups_iff {cs : List Char} (h : (scan cs).isComplete) :
    ownsGroups cs ↔ '[' ∉ cs ∨ precedes (lastIndex? '@' cs) (lastIndex? '[' cs) := by
  simp [ownsGroups, precedes_previousClose? h, lastIndex?_eq_none_iff]

theorem ownsGroups_bare_iff {before blanks head : List Char} (hblanks : ∀ c ∈ blanks, isBlank c)
    (hhead : ∀ c ∈ head, isWordPart c)
    (hcomplete : (scan (before ++ '@' :: (blanks ++ head))).isComplete) :
    ownsGroups (before ++ '@' :: (blanks ++ head)) ↔ '[' ∉ before := by
  have hat : '@' ∉ blanks ++ head := by simp [not_mem_blanks hblanks, not_mem_word hhead]
  have hbracket : '[' ∉ '@' :: (blanks ++ head) := by
    simp [not_mem_blanks hblanks, not_mem_word hhead]
  rw [ownsGroups_iff hcomplete, lastIndex?_append_cons hat,
    lastIndex?_append_of_not_mem hbracket]
  cases hlast : lastIndex? '[' before with
  | none =>
      have hnone := lastIndex?_eq_none_iff.mp hlast
      simp [hnone, not_mem_blanks hblanks, not_mem_word hhead]
  | some i =>
      have hi := lt_of_lastIndex? hlast
      have hmem : '[' ∈ before := by
        by_contra hnone
        simp [lastIndex?_eq_none_iff.mpr hnone] at hlast
      simp only [precedes, List.mem_append, hmem, true_or, not_true_eq_false, false_or,
        decide_eq_true_eq, iff_false, Nat.not_lt]
      exact hi.le

theorem ownsGroups_grouped_iff {before blanks head body trailing : List Char}
    (hbody : ∀ c ∈ body, c ≠ '[' ∧ c ≠ ']') (htrailing : ∀ c ∈ trailing, isBlank c)
    (hcomplete : (scan (before ++ '@' :: (blanks ++ head) ++
      '[' :: (body ++ ']' :: trailing))).isComplete) :
    ownsGroups (before ++ '@' :: (blanks ++ head) ++ '[' :: (body ++ ']' :: trailing)) ↔
      '@' ∉ body := by
  have hbracket : '[' ∉ body ++ ']' :: trailing := by
    simpa [not_mem_blanks htrailing] using fun hmem => (hbody _ hmem).1 rfl
  rw [ownsGroups_iff hcomplete, lastIndex?_append_cons hbracket,
    precedes_lastIndex?_iff (by decide)]
  simp [not_mem_blanks htrailing]

/-- The machine has read a complete selector that owns its groups in exactly two cases. -/
theorem isComplete_and_ownsGroups_iff {cs : List Char} :
    (scan cs).isComplete ∧ ownsGroups cs ↔ EndsInBareSelector cs ∨ EndsInGroupedSelector cs := by
  constructor
  · rintro ⟨hcomplete, howns⟩
    cases hs : scan cs with
    | outside => simp [hs, Scan.isComplete] at hcomplete
    | inBracket b => simp [hs, Scan.isComplete] at hcomplete
    | afterAt n =>
        obtain ⟨before, blanks, head, rfl, hblanks, hhead, rfl, _⟩ := scan_eq_afterAt_iff.mp hs
        rw [ownsGroups_bare_iff hblanks hhead hcomplete] at howns
        have hpos : 0 < head.length := by simpa [hs, Scan.isComplete] using hcomplete
        exact .inl ⟨before, blanks, head, rfl, hblanks, hhead, List.length_pos_iff.mp hpos, howns⟩
    | afterClose =>
        obtain ⟨before, blanks, head, body, trailing, rfl, hblanks, hhead, hne, hbody, htrailing,
          hopen⟩ := endsInClose_iff.mp (scan_eq_afterClose_iff.mp hs)
        rw [ownsGroups_grouped_iff hbody htrailing hcomplete] at howns
        refine .inr ⟨before, blanks, head, body, trailing, rfl, hblanks, hhead, hne, ?_, htrailing,
          hopen⟩
        intro c hc
        exact ⟨(hbody c hc).1, (hbody c hc).2, fun h => howns (h ▸ hc)⟩
  · rintro (⟨before, blanks, head, rfl, hblanks, hhead, hne, hbefore⟩ |
      ⟨before, blanks, head, body, trailing, rfl, hblanks, hhead, hne, hbody, htrailing, hopen⟩)
    · have hscan := scan_head hblanks hhead (isOpen_eq_false_of_not_mem hbefore)
      have hcomplete : (scan (before ++ '@' :: (blanks ++ head))).isComplete := by
        simpa [hscan, Scan.isComplete] using List.length_pos_iff.mpr hne
      exact ⟨hcomplete, (ownsGroups_bare_iff hblanks hhead hcomplete).mpr hbefore⟩
    · have hfree : ∀ c ∈ body, c ≠ '[' ∧ c ≠ ']' := fun c hc => ⟨(hbody c hc).1, (hbody c hc).2.1⟩
      have hscan := scan_eq_afterClose_iff.mpr (endsInClose_iff.mpr
        ⟨before, blanks, head, body, trailing, rfl, hblanks, hhead, hne, hfree, htrailing, hopen⟩)
      have hcomplete : (scan (before ++ '@' :: (blanks ++ head) ++
          '[' :: (body ++ ']' :: trailing))).isComplete := by
        rw [hscan]
        rfl
      exact ⟨hcomplete, (ownsGroups_grouped_iff hfree htrailing hcomplete).mpr
        fun hmem => (hbody _ hmem).2.2 rfl⟩

/-! ### The context -/

theorem Scan.step_dot {s : Scan} (h : s.isComplete) (index : Nat) : s.step index '.' = outside := by
  have hclass := delimiter_class '.' (by simp)
  cases s with
  | afterAt n => simp [step, hclass]
  | afterClose => simp [step, hclass]
  | _ => simp [isComplete] at h

theorem Scan.runFrom_outside {cs : List Char} (h : '@' ∉ cs) (index : Nat) :
    runFrom index outside cs = outside := by
  induction cs generalizing index with
  | nil => rfl
  | cons c cs ih =>
      rw [List.mem_cons, not_or] at h
      obtain ⟨hc, hcs⟩ := h
      have hc' : c ≠ '@' := fun e => hc e.symm
      simpa [runFrom, step, hc'] using ih hcs (index + 1)

/-- Behind a dot that follows a complete selector, and a word, no group is open. -/
theorem paramRule_eq_none_of_dot {text : List Char} {cursor d : Nat}
    (hdot : text[d]? = some '.') (hd : d < cursor)
    (hword : ∀ c ∈ (text.take cursor).drop (d + 1), isWordPart c)
    (hcomplete : (scan (text.take d)).isComplete) : paramRule text cursor = none := by
  have hscan : scan (text.take cursor) = .outside := by
    have hat := not_mem_word hword (d := '@') (by simp)
    rw [take_eq_of_getElem? hdot hd, scan_append, Scan.runFrom, Scan.step_dot hcomplete,
      Scan.runFrom_outside hat]
  simp [paramRule, hscan]

/-- Members are completed, with the dot at offset `d`, exactly if the dot is directly before the
cursor or the word at the cursor, and the text before it ends in a selector that owns its groups:
one without a group, behind no group at all, or one with a closed group without `@`. Where the
machine has read a complete selector, its `@` always comes after the `]` before the last one. -/
theorem contextAt_member_iff_ending {text : List Char} {cursor : Nat}
    (hcursor : cursor ≤ text.length) {trigger : Option String}
    (htrigger : trigger = none ∨ trigger = some ".") (d : Nat) :
    (contextAt text cursor trigger = some (.member d) ↔
      text[d]? = some '.' ∧
      (d + 1 = cursor ∨ trigger = none ∧ d + 1 < cursor ∧
        ∀ c ∈ (text.take cursor).drop (d + 1), isWordPart c) ∧
      (EndsInBareSelector (text.take d) ∨ EndsInGroupedSelector (text.take d))) ∧
    ∀ cs, (scan cs).isComplete → precedes (previousClose? cs) (lastIndex? '@' cs) := by
  refine ⟨?_, fun cs => precedes_previousClose?⟩
  have hadmits : admits ["."] trigger := by rcases htrigger with rfl | rfl <;> decide
  rw [contextAt_eq_member_iff hcursor hadmits, memberRule_eq_some_iff]
  constructor
  · rintro ⟨_, d', hdot, hcomplete, howns, hd⟩
    obtain rfl : d = d' := Context.member.inj hd
    obtain ⟨hchar, hplace⟩ := (memberDot?_eq_some_iff hcursor).mp hdot
    exact ⟨hchar, hplace, isComplete_and_ownsGroups_iff.mp ⟨hcomplete, howns⟩⟩
  · rintro ⟨hchar, hplace, hends⟩
    obtain ⟨hcomplete, howns⟩ := isComplete_and_ownsGroups_iff.mpr hends
    refine ⟨fun _ => ?_, d, (memberDot?_eq_some_iff hcursor).mpr ⟨hchar, hplace⟩, hcomplete, howns,
      rfl⟩
    obtain rfl | ⟨_, hd, hword⟩ := hplace
    · have hempty : (text.take (d + 1)).drop (d + 1) = [] :=
        List.drop_eq_nil_of_le (List.length_take_le _ _)
      exact paramRule_eq_none_of_dot hchar (Nat.lt_succ_self d) (by simp [hempty]) hcomplete
    · exact paramRule_eq_none_of_dot hchar (by omega) hword hcomplete

/-- A selector with a closed group, behind another one, and the start of a member. -/
def afterGroups : List Char := "@a[x] @e[y] .ki".toList

theorem contextAt_member_of_afterGroups :
    15 ≤ afterGroups.length ∧ contextAt afterGroups 15 none = some (.member 12) := by
  have hcursor : 15 ≤ afterGroups.length := by decide
  have hword : ∀ c ∈ (afterGroups.take 15).drop 13, isWordPart c :=
    List.all_eq_true.mp (by decide +kernel)
  have hends : EndsInGroupedSelector (afterGroups.take 12) :=
    ⟨"@a[x] ".toList, [], ['e'], ['y'], [' '], by decide, by simp,
      List.all_eq_true.mp (by decide +kernel), by simp, by simp,
      List.all_eq_true.mp (by decide +kernel), by decide +kernel⟩
  exact ⟨hcursor, (contextAt_member_iff_ending hcursor (.inl rfl) 12).1.mpr
    ⟨by decide, .inr ⟨rfl, by decide, hword⟩, .inr hends⟩⟩

end Datapack.Selector
