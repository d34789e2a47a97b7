import Datapack.Proofs.Selector.Members

/-! The order of the rules. A member is never completed where a parameter or a head is, so the order
decides only between a parameter and a head, in a word behind an `@` in an open group. What a typed
character completes is therefore completed without it too. -/

namespace Datapack.Selector

open Text

/-! ### Heads -/

/-- Without a typed `@`, a head is completed in a word directly behind an `@`. -/
theorem targetRule_eq_some_iff {text : List Char} {cursor : Nat} (hcursor : cursor ≤ text.length)
    {trigger : Option String} (htrigger : trigger ≠ some "@") {context : Context} :
    targetRule text cursor trigger = some context ↔
      ∃ a, text[a]? = some '@' ∧ TouchesWordFrom text cursor (a + 1) ∧
        context = .target (a + 1) := by
  have hclass : isWordPart '@' = false := (delimiter_class '@' (by simp)).2
  rw [targetRule, if_neg htrigger]
  constructor
  · intro h
    split at h
    · next start stop hword =>
        obtain ⟨hstart, hcontext⟩ := Option.ite_none_right_eq_some.mp h
        obtain ⟨a, rfl, hmark⟩ := charBefore?_eq_some_iff.mp hstart
        exact ⟨a, hmark, (wordAt?_behind_iff hcursor hclass hmark).mp ⟨stop, hword⟩,
          (Option.some.inj hcontext).symm⟩
    · cases h
  · rintro ⟨a, hmark, htouch, rfl⟩
    obtain ⟨stop, hword⟩ := (wordAt?_behind_iff hcursor hclass hmark).mpr htouch
    have hstart : charBefore? text (a + 1) = some '@' :=
      charBefore?_eq_some_iff.mpr ⟨a, rfl, hmark⟩
    simp [hword, hstart]

/-! ### Members and the other rules -/

/-- The dot of a member, with the complete selector before it and the word behind it. -/
theorem memberRule_dot {text : List Char} {cursor : Nat} (hcursor : cursor ≤ text.length)
    {trigger : Option String} {context : Context}
    (h : memberRule text cursor trigger = some context) :
    ∃ d, text[d]? = some '.' ∧ d < cursor ∧
      (∀ c ∈ (text.take cursor).drop (d + 1), isWordPart c) ∧
      (scan (text.take d)).isComplete := by
  obtain ⟨d, hdot, hcomplete, _, _⟩ := memberRule_eq_some_iff.mp h
  obtain ⟨hchar, rfl | ⟨_, hlt, hword⟩⟩ := (memberDot?_eq_some_iff hcursor).mp hdot
  · have hempty : (text.take (d + 1)).drop (d + 1) = [] :=
      List.drop_eq_nil_of_le (List.length_take_le _ _)
    exact ⟨d, hchar, Nat.lt_succ_self d, by simp [hempty], hcomplete⟩
  · exact ⟨d, hchar, by omega, hword, hcomplete⟩

theorem paramRule_eq_none_of_memberRule {text : List Char} {cursor : Nat}
    (hcursor : cursor ≤ text.length) {trigger : Option String} {context : Context}
    (h : memberRule text cursor trigger = some context) : paramRule text cursor = none := by
  obtain ⟨d, hdot, hd, hword, hcomplete⟩ := memberRule_dot hcursor h
  exact paramRule_eq_none_of_dot hdot hd hword hcomplete

/-- The word at the cursor stands behind one character only, a dot or an `@`. -/
theorem targetRule_eq_none_of_memberRule {text : List Char} {cursor : Nat}
    (hcursor : cursor ≤ text.length) {trigger : Option String} {context : Context}
    (h : memberRule text cursor trigger = some context) : targetRule text cursor none = none := by
  obtain ⟨d, hdot, hd, hword, _⟩ := memberRule_dot hcursor h
  have hclass := delimiter_class
  by_contra hsome
  obtain ⟨target, htarget⟩ := Option.ne_none_iff_exists'.mp hsome
  obtain ⟨a, hat, ⟨ha, hhead, _⟩, _⟩ := (targetRule_eq_some_iff hcursor (by simp)).mp htarget
  have hbehindDot := wordBefore_of_mark hcursor (hclass '.' (by simp)).2 hdot hd hword
  have hbehindAt := wordBefore_of_mark hcursor (hclass '@' (by simp)).2 hat (by omega) hhead
  obtain rfl : a = d := by omega
  simp [hat] at hdot

/-- A dot that was typed is the dot that is found without it. -/
theorem memberRule_of_typed {text : List Char} {cursor : Nat} {trigger : String}
    {context : Context} (h : memberRule text cursor (some trigger) = some context) :
    memberRule text cursor none = some context := by
  rw [memberRule_eq_some_iff] at h ⊢
  obtain ⟨d, hdot, hrest⟩ := h
  refine ⟨d, ?_, hrest⟩
  simp only [memberDot?, Option.isNone_some, Bool.false_eq_true, if_false,
    Option.ite_none_right_eq_some] at hdot
  simp [memberDot?, hdot.1, ← hdot.2]

/-! ### The context -/

theorem contextAt_none (text : List Char) (cursor : Int) :
    contextAt text cursor none =
      (paramRule text (clampCursor text cursor) <|>
        memberRule text (clampCursor text cursor) none <|>
        targetRule text (clampCursor text cursor) none) := rfl

theorem contextAt_none_of_paramRule {text : List Char} {cursor : Int} {context : Context}
    (h : paramRule text (clampCursor text cursor) = some context) :
    contextAt text cursor none = some context := by
  simp [contextAt_none, h]

theorem contextAt_none_of_memberRule {text : List Char} {cursor : Int} {context : Context}
    (h : memberRule text (clampCursor text cursor) none = some context) :
    contextAt text cursor none = some context := by
  simp [contextAt_none, h, paramRule_eq_none_of_memberRule (clampCursor_le text cursor) h]

theorem contextAt_none_of_targetRule {text : List Char} {cursor : Int} {context : Context}
    (hparam : paramRule text (clampCursor text cursor) = none)
    (h : targetRule text (clampCursor text cursor) none = some context) :
    contextAt text cursor none = some context := by
  have hmember : memberRule text (clampCursor text cursor) none = none := by
    by_contra hsome
    obtain ⟨member, hmember⟩ := Option.ne_none_iff_exists'.mp hsome
    rw [targetRule_eq_none_of_memberRule (clampCursor_le text cursor) hmember] at h
    cases h
  simp [contextAt_none, hparam, hmember, h]

/-- A typed bracket or comma admits parameters only, and a typed dot members only. -/
theorem rule_of_contextAt_typed {text : List Char} {cursor : Int} {trigger : String}
    (htrigger : trigger ∈ ["[", ",", "."]) {context : Context}
    (h : contextAt text cursor (some trigger) = some context) :
    paramRule text (clampCursor text cursor) = some context ∨
      memberRule text (clampCursor text cursor) (some trigger) = some context := by
  simp only [List.mem_cons, List.not_mem_nil, or_false] at htrigger
  rcases htrigger with rfl | rfl | rfl
  · exact .inl (by simpa [contextAt, admits] using h)
  · exact .inl (by simpa [contextAt, admits] using h)
  · exact .inr (by simpa [contextAt, admits] using h)

/-- What a typed bracket, comma or dot completes is completed at that cursor without it too. Of the
three rules, the one for members never applies together with another one. Those for parameters and
for heads do exactly in a word behind an `@` in an open group, where parameters are completed. -/
theorem order_decides_only_nested_heads (text : List Char) (cursor : Int) :
    (∀ trigger ∈ ["[", ",", "."], contextAt text cursor (some trigger) ≠ none →
      contextAt text cursor none = contextAt text cursor (some trigger)) ∧
    let position := clampCursor text cursor
    (∀ context, memberRule text position none = some context →
      paramRule text position = none ∧ targetRule text position none = none) ∧
    (paramRule text position ≠ none ∧ targetRule text position none ≠ none ↔
      (∃ b, scan (text.take position) = .inBracket b) ∧
        ∃ a, text[a]? = some '@' ∧ TouchesWordFrom text position (a + 1)) ∧
    ∀ b, scan (text.take position) = .inBracket b →
      contextAt text cursor none = some (.param b) := by
  have hposition := clampCursor_le text cursor
  refine ⟨fun trigger htrigger hne => ?_, fun context hmember => ?_, ?_, fun b hb => ?_⟩
  · obtain ⟨context, hcontext⟩ := Option.ne_none_iff_exists'.mp hne
    rw [hcontext]
    rcases rule_of_contextAt_typed htrigger hcontext with hparam | hmember
    · exact contextAt_none_of_paramRule hparam
    · exact contextAt_none_of_memberRule (memberRule_of_typed hmember)
  · exact ⟨paramRule_eq_none_of_memberRule hposition hmember,
      targetRule_eq_none_of_memberRule hposition hmember⟩
  · simp [Option.ne_none_iff_exists', paramRule_eq_some_iff,
      targetRule_eq_some_iff hposition]
  · exact contextAt_none_of_paramRule (paramRule_eq_some_iff.mpr ⟨b, hb, rfl⟩)

/-- A head in the open group of another selector. -/
def nestedHead : List Char := "@e[tag=@pi".toList

/-- The start of a member. -/
def memberStart : List Char := "@a.ki".toList

theorem nestedHead_param_memberStart_alone :
    (contextAt nestedHead 10 (some ",") ≠ none ∧
      contextAt nestedHead 10 none = contextAt nestedHead 10 (some ",")) ∧
    (paramRule nestedHead 10 ≠ none ∧ targetRule nestedHead 10 none ≠ none ∧
      contextAt nestedHead 10 none = some (.param 2)) ∧
    memberRule memberStart 5 none = some (.member 2) ∧
      paramRule memberStart 5 = none ∧ targetRule memberStart 5 none = none := by
  obtain ⟨htyped, _, hoverlap, hparam⟩ := order_decides_only_nested_heads nestedHead 10
  obtain ⟨_, halone, _⟩ := order_decides_only_nested_heads memberStart 5
  have hcomma : contextAt nestedHead 10 (some ",") ≠ none := by decide +kernel
  have hgroup : scan (nestedHead.take 10) = .inBracket 2 := by decide +kernel
  have htouch : TouchesWordFrom nestedHead 10 8 :=
    ⟨by decide, List.all_eq_true.mp (by decide +kernel), .inl (by decide)⟩
  have hmember : memberRule memberStart 5 none = some (.member 2) := by decide +kernel
  obtain ⟨hfirst, hsecond⟩ := hoverlap.mpr ⟨⟨2, hgroup⟩, 7, by decide, htouch⟩
  exact ⟨⟨hcomma, htyped "," (by simp) hcomma⟩, ⟨hfirst, hsecond, hparam 2 hgroup⟩, hmember,
    halone _ hmember⟩

end Datapack.Selector
