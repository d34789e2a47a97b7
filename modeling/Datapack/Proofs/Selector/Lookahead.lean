import Datapack.Proofs.Selector.RuleOrder

/-! What stands behind the cursor. Parameters and members do not depend on it. A head does, and only
directly behind an `@`, where a word that starts at the cursor is a head. So a text can be cut at
the cursor and the context stays, unless such a head is lost. -/

namespace Datapack.Selector

open Text

/-- Nothing was typed, and directly behind an `@` outside of open groups a word starts at the
cursor. -/
def StartsHead (text : List Char) (cursor : Nat) (trigger : Option String) : Prop :=
  trigger = none ∧ charBefore? text cursor = some '@' ∧
    (∃ c, text[cursor]? = some c ∧ isWordPart c) ∧ (scan (text.take cursor)).isOpen = false

theorem clampCursor_take (text : List Char) (cursor : Int) :
    clampCursor (text.take (clampCursor text cursor)) cursor = clampCursor text cursor := by
  simp only [clampCursor, List.length_take]
  omega

/-- In a text that ends at the cursor, a word touches the cursor only from before it. -/
theorem touchesWordFrom_take_iff {text : List Char} {cursor start : Nat} :
    TouchesWordFrom (text.take cursor) cursor start ↔
      start < cursor ∧ ∀ c ∈ (text.take cursor).drop start, isWordPart c := by
  have hend : (text.take cursor)[cursor]? = none := List.getElem?_take_eq_none (Nat.le_refl _)
  rw [TouchesWordFrom, List.take_take, Nat.min_self, hend]
  constructor
  · rintro ⟨_, hword, hlt | ⟨c, hc, _⟩⟩
    · exact ⟨hlt, hword⟩
    · cases hc
  · rintro ⟨hlt, hword⟩
    exact ⟨hlt.le, hword, .inl hlt⟩

theorem paramRule_take (text : List Char) (cursor : Nat) :
    paramRule (text.take cursor) cursor = paramRule text cursor := by
  rw [paramRule, List.take_take, Nat.min_self, paramRule]

section

variable {text : List Char} {cursor : Nat} (hcursor : cursor ≤ text.length)

include hcursor

theorem cursor_le_length_take : cursor ≤ (text.take cursor).length := by
  rw [List.length_take, Nat.min_eq_left hcursor]

/-- The dot of a member stands before the cursor, and so does all that is between them. -/
theorem memberDot?_take (trigger : Option String) :
    memberDot? (text.take cursor) cursor trigger = memberDot? text cursor trigger := by
  ext d
  rw [memberDot?_eq_some_iff (cursor_le_length_take hcursor), memberDot?_eq_some_iff hcursor,
    List.take_take, Nat.min_self]
  refine and_congr_left fun hplace => ?_
  have hd : d < cursor := by omega
  rw [List.getElem?_take_of_lt hd]

theorem memberRule_take (trigger : Option String) :
    memberRule (text.take cursor) cursor trigger = memberRule text cursor trigger := by
  ext context
  rw [memberRule_eq_some_iff, memberRule_eq_some_iff, memberDot?_take hcursor]
  refine exists_congr fun d => and_congr_right fun hdot => ?_
  obtain ⟨_, hplace⟩ := (memberDot?_eq_some_iff hcursor).mp hdot
  have hd : d ≤ cursor := by omega
  rw [List.take_take, Nat.min_eq_left hd]

/-- Only a word that starts at the cursor, directly behind an `@`, makes a difference to heads. -/
theorem targetRule_take {trigger : Option String}
    (hstart : trigger = none → charBefore? text cursor = some '@' →
      ¬∃ c, text[cursor]? = some c ∧ isWordPart c)
    (hadmits : admits ["@"] trigger) :
    targetRule (text.take cursor) cursor trigger = targetRule text cursor trigger := by
  by_cases htrigger : trigger = some "@"
  · simp [targetRule, htrigger]
  obtain rfl : trigger = none := by
    cases trigger with
    | none => rfl
    | some t => exact absurd (by simpa [admits] using hadmits) htrigger
  ext context
  rw [targetRule_eq_some_iff (cursor_le_length_take hcursor) htrigger,
    targetRule_eq_some_iff hcursor htrigger]
  refine exists_congr fun a => ?_
  rw [touchesWordFrom_take_iff]
  constructor
  · rintro ⟨hat, ⟨hlt, hword⟩, hcontext⟩
    rw [List.getElem?_take_of_lt (by omega)] at hat
    exact ⟨hat, ⟨hlt.le, hword, .inl hlt⟩, hcontext⟩
  · rintro ⟨hat, ⟨hle, hword, htouch⟩, hcontext⟩
    have hlt : a + 1 < cursor := by
      rcases htouch with hlt | hafter
      · exact hlt
      · refine Nat.lt_of_le_of_ne hle ?_
        rintro rfl
        exact hstart rfl (charBefore?_eq_some_iff.mpr ⟨a, rfl, hat⟩) hafter
    exact ⟨by rw [List.getElem?_take_of_lt (by omega), hat], ⟨hlt, hword⟩, hcontext⟩

/-- A word that starts at the cursor is the head of the `@` before it. -/
theorem StartsHead.rules {trigger : Option String} (h : StartsHead text cursor trigger) :
    paramRule text cursor = none ∧ memberRule text cursor none = none ∧
      targetRule text cursor none = some (.target cursor) ∧
      targetRule (text.take cursor) cursor none = none := by
  obtain ⟨rfl, hat, hword, hopen⟩ := h
  obtain ⟨a, rfl, hchar⟩ := charBefore?_eq_some_iff.mp hat
  have htarget : targetRule text (a + 1) none = some (.target (a + 1)) :=
    (targetRule_eq_some_iff hcursor (by simp)).mpr
      ⟨a, hchar, ⟨Nat.le_refl _, by simp, .inr hword⟩, rfl⟩
  refine ⟨?_, ?_, htarget, ?_⟩
  · cases hparam : paramRule text (a + 1) with
    | none => rfl
    | some context =>
        obtain ⟨b, hscan, _⟩ := paramRule_eq_some_iff.mp hparam
        simp [hscan, Scan.isOpen] at hopen
  · cases hmember : memberRule text (a + 1) none with
    | none => rfl
    | some context =>
        rw [targetRule_eq_none_of_memberRule hcursor hmember] at htarget
        cases htarget
  · cases hcut : targetRule (text.take (a + 1)) (a + 1) none with
    | none => rfl
    | some context =>
        obtain ⟨a', hat', htouch, _⟩ :=
          (targetRule_eq_some_iff (cursor_le_length_take hcursor) (by simp)).mp hcut
        obtain ⟨hlt, hbehind⟩ := (touchesWordFrom_take_iff).mp htouch
        -- A word from further left up to the cursor would hold the `@`.
        have hmem : '@' ∈ (text.take (a + 1)).drop (a' + 1) := by
          apply List.mem_of_getElem? (i := a - (a' + 1))
          rw [List.getElem?_drop, Nat.add_sub_cancel' (by omega),
            List.getElem?_take_of_lt (Nat.lt_succ_self a), hchar]
        exact absurd rfl (ne_of_isWordPart (hbehind '@' hmem) (by simp))

end

/-- Cutting a text at the cursor keeps the context, whatever stood behind the cursor, except where a
word starts directly behind an `@` outside of open groups and nothing was typed: there the word is
a head, and without it there is no context. -/
theorem context_of_text_before_cursor (text : List Char) (cursor : Int) (trigger : Option String) :
    let position := clampCursor text cursor
    let before := text.take position
    (¬StartsHead text position trigger →
      contextAt text cursor trigger = contextAt before cursor trigger) ∧
    (StartsHead text position trigger →
      contextAt text cursor trigger = some (.target position) ∧
      contextAt before cursor trigger = none) := by
  intro position before
  have hposition : position ≤ text.length := clampCursor_le text cursor
  have hcut : clampCursor before cursor = position := clampCursor_take text cursor
  have hparam : paramRule before position = paramRule text position := paramRule_take text position
  refine ⟨fun hstart => ?_, fun hstart => ?_⟩
  · have hmember := memberRule_take hposition trigger
    by_cases hgroup : admits ["[", ","] trigger ∧ (scan (text.take position)).isOpen
    · obtain ⟨hadmits, hopen⟩ := hgroup
      obtain ⟨b, hb⟩ := Scan.isOpen_iff.mp hopen
      have hinside : paramRule text position = some (.param b) :=
        paramRule_eq_some_iff.mpr ⟨b, hb, rfl⟩
      simp only [contextAt, hcut, hparam, hadmits, if_true]
      simp [position, hinside]
    · have htarget (hadmits : admits ["@"] trigger) :
          targetRule before position trigger = targetRule text position trigger := by
        refine targetRule_take hposition (fun htrigger hat hword => ?_) hadmits
        have hopen : (scan (text.take position)).isOpen = false := by
          rw [← Bool.not_eq_true]
          exact fun hopen => hgroup ⟨by rw [htrigger]; rfl, hopen⟩
        exact hstart ⟨htrigger, hat, hword, hopen⟩
      simp only [contextAt, hcut, hparam]
      rw [hmember]
      by_cases hadmits : admits ["@"] trigger
      · rw [htarget hadmits]
      · simp [hadmits, position]
  · obtain ⟨hgroup, hmember, htarget, hnone⟩ := hstart.rules hposition
    obtain ⟨rfl, _⟩ := hstart
    rw [contextAt_none, contextAt_none, hcut, hparam, memberRule_take hposition]
    simp [position, before, hgroup, hmember, htarget, hnone]

end Datapack.Selector
