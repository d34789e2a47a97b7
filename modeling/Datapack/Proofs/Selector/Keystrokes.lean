import Datapack.Proofs.Selector.RuleOrder

/-! Contexts while the user types. The entries of a first answer are filtered further while a name
is typed, so the context and its anchor have to stay: for a member and for a head while a word is
typed, for a parameter until the next bracket, and whatever stands behind the cursor. -/

namespace Datapack.Selector

open Text

theorem isOpen_concat_at (before : List Char) :
    (scan (before ++ ['@'])).isOpen = (scan before).isOpen := by
  rw [scan_concat]
  cases scan before <;> simp [Scan.step, Scan.isOpen]

/-! ### A cursor in the typed word -/

section TypedWord

variable {typed word rest : List Char} {cursor : Nat} (hlow : typed.length ≤ cursor)
  (hhigh : cursor ≤ typed.length + word.length)

include hhigh in
theorem le_length_typed : cursor ≤ (typed ++ word ++ rest).length := by
  simp only [List.length_append]
  omega

include hlow hhigh

theorem take_typed :
    (typed ++ word ++ rest).take cursor = typed ++ word.take (cursor - typed.length) := by
  rw [List.take_append_of_le_length (by simpa using hhigh), List.take_append,
    List.take_of_length_le hlow]

variable (hword : ∀ c ∈ word, isWordPart c)

include hword

/-- What stands behind an offset of the typed text stays a word while a word is typed. -/
theorem forall_mem_drop_typed {start : Nat} (hstart : start ≤ typed.length)
    (htyped : ∀ c ∈ typed.drop start, isWordPart c) :
    ∀ c ∈ ((typed ++ word ++ rest).take cursor).drop start, isWordPart c := by
  rw [take_typed hlow hhigh, List.drop_append_of_le_length hstart]
  intro c hc
  rcases List.mem_append.mp hc with hc | hc
  · exact htyped c hc
  · exact hword c (List.mem_of_mem_take hc)

theorem memberRule_append_word {trigger : Option String} {context : Context}
    (h : memberRule typed typed.length trigger = some context) :
    memberRule (typed ++ word ++ rest) cursor none = some context := by
  rw [memberRule_eq_some_iff] at h ⊢
  obtain ⟨d, hdot, hcomplete, howns, hcontext⟩ := h
  obtain ⟨hchar, hplace⟩ := (memberDot?_eq_some_iff (Nat.le_refl _)).mp hdot
  have hd : d + 1 ≤ typed.length := by omega
  have htyped : ∀ c ∈ typed.drop (d + 1), isWordPart c := by
    rcases hplace with hend | ⟨_, _, hbehind⟩
    · simp [List.drop_of_length_le (Nat.le_of_eq hend.symm)]
    · simpa using hbehind
  have hbefore : (typed ++ word ++ rest).take d = typed.take d := by
    rw [List.append_assoc, List.take_append_of_le_length (by omega)]
  have hchar : (typed ++ word ++ rest)[d]? = some '.' := by
    rw [List.append_assoc, List.getElem?_append_left (by omega), hchar]
  refine ⟨d, (memberDot?_eq_some_iff (le_length_typed hhigh)).mpr ⟨hchar, ?_⟩, ?_, ?_, hcontext⟩
  · rcases Nat.eq_or_lt_of_le (hd.trans hlow) with hend | hlt
    · exact .inl hend
    · exact .inr ⟨rfl, hlt, forall_mem_drop_typed hlow hhigh hword hd htyped⟩
  · rwa [hbefore]
  · rwa [hbefore]

theorem targetRule_of_typed_at (hat : typed.getLast? = some '@') (hne : word ≠ []) :
    targetRule (typed ++ word ++ rest) cursor none = some (.target typed.length) := by
  obtain ⟨before, rfl⟩ := List.getLast?_eq_some_iff.mp hat
  rw [targetRule_eq_some_iff (le_length_typed hhigh) (by simp)]
  refine ⟨before.length, by simp, ⟨?_, ?_, ?_⟩, by simp⟩
  · simpa using hlow
  · exact forall_mem_drop_typed hlow hhigh hword (by simp) (by simp)
  · obtain ⟨c, word, rfl⟩ := List.exists_cons_of_ne_nil hne
    rcases Nat.eq_or_lt_of_le hlow with hend | hlt
    · exact .inr ⟨c, by simp [← hend], hword c (by simp)⟩
    · exact .inl (by simpa using hlt)

/-- A word behind an `@` that starts a head opens no group. -/
theorem paramRule_eq_none_of_typed_at (hat : typed.getLast? = some '@')
    (hopen : (scan typed).isOpen = false) :
    paramRule (typed ++ word ++ rest) cursor = none := by
  obtain ⟨before, rfl⟩ := List.getLast?_eq_some_iff.mp hat
  rw [isOpen_concat_at] at hopen
  have hhead : ∀ c ∈ word.take (cursor - (before ++ ['@']).length), isWordPart c :=
    fun c hc => hword c (List.mem_of_mem_take hc)
  rw [paramRule, take_typed hlow hhigh, scan_append, scan_concat, Scan.step_at hopen,
    Scan.runFrom_word _ _ hhead]

end TypedWord

/-! ### The context -/

/-- Once a member is completed, it is at each cursor in a word typed behind it; once a parameter is,
it is behind any text without brackets; and behind an `@` outside of open groups a head is, at each
cursor in a word that follows, with the anchor that the typed `@` gives. -/
theorem context_kept_while_typing (typed rest : List Char) :
    (∀ d trigger, trigger = none ∨ trigger = some "." →
      contextAt typed typed.length trigger = some (.member d) →
      ∀ word, (∀ c ∈ word, isWordPart c) →
      ∀ cursor : Nat, typed.length ≤ cursor → cursor ≤ typed.length + word.length →
        contextAt (typed ++ word ++ rest) cursor none = some (.member d)) ∧
    (∀ b trigger, trigger = none ∨ trigger = some "[" ∨ trigger = some "," →
      contextAt typed typed.length trigger = some (.param b) →
      ∀ text, '[' ∉ text → ']' ∉ text →
        contextAt (typed ++ text ++ rest) (typed ++ text).length none = some (.param b)) ∧
    (typed.getLast? = some '@' → (scan typed).isOpen = false →
      contextAt typed typed.length (some "@") = some (.target typed.length) ∧
      ∀ word, word ≠ [] → (∀ c ∈ word, isWordPart c) →
      ∀ cursor : Nat, typed.length ≤ cursor → cursor ≤ typed.length + word.length →
        contextAt (typed ++ word ++ rest) cursor none = some (.target typed.length)) := by
  refine ⟨fun d trigger htrigger h word hword cursor hlow hhigh => ?_,
    fun b trigger htrigger h text hbracket hclose => ?_, fun hat hopen => ⟨?_, ?_⟩⟩
  · have hadmits : admits ["."] trigger := by rcases htrigger with rfl | rfl <;> decide
    have hmember := ((contextAt_eq_member_iff (Nat.le_refl _) hadmits).mp h).2
    apply contextAt_none_of_memberRule
    rw [clampCursor_natCast (le_length_typed hhigh)]
    exact memberRule_append_word hlow hhigh hword hmember
  · have hadmits : admits ["[", ","] trigger := by
      rcases htrigger with rfl | rfl | rfl <;> decide
    have hscan := (contextAt_eq_param_iff (Nat.le_refl _) hadmits).mp h
    have hfree : ∀ c ∈ text, c ≠ '[' ∧ c ≠ ']' := fun c hc =>
      ⟨fun e => hbracket (e ▸ hc), fun e => hclose (e ▸ hc)⟩
    rw [contextAt_eq_param_iff (by simp) rfl, List.take_left, scan_append]
    rw [List.take_length] at hscan
    rw [hscan, Scan.runFrom_body _ _ hfree]
  · simp [contextAt, admits, targetRule, clampCursor]
  · intro word hne hword cursor hlow hhigh
    apply contextAt_none_of_targetRule
    · rw [clampCursor_natCast (le_length_typed hhigh)]
      exact paramRule_eq_none_of_typed_at hlow hhigh hword hat hopen
    · rw [clampCursor_natCast (le_length_typed hhigh)]
      exact targetRule_of_typed_at hlow hhigh hword hat hne

/-- A selector with a closed group and the dot of a member. -/
def dottedSelector : List Char := "@e[x].".toList

/-- A selector with an open group. -/
def openGroup : List Char := "@e[".toList

/-- The `@` of a selector that follows another word. -/
def startedSelector : List Char := "as @".toList

theorem contexts_kept_in_selectors :
    (contextAt dottedSelector dottedSelector.length (some ".") = some (.member 5) ∧
      contextAt (dottedSelector ++ "kill".toList ++ ['(', ')']) (8 : Nat) none =
        some (.member 5)) ∧
    (contextAt openGroup openGroup.length (some "[") = some (.param 2) ∧
      contextAt (openGroup ++ "tag=@p.x, ".toList ++ [']'])
        (openGroup ++ "tag=@p.x, ".toList).length none = some (.param 2)) ∧
    (scan startedSelector).isOpen = false ∧
      contextAt startedSelector startedSelector.length (some "@") =
        some (.target startedSelector.length) ∧
      contextAt (startedSelector ++ "pig".toList ++ ['.']) (5 : Nat) none =
        some (.target startedSelector.length) := by
  have hmember : contextAt dottedSelector dottedSelector.length (some ".") = some (.member 5) := by
    decide +kernel
  have hparam : contextAt openGroup openGroup.length (some "[") = some (.param 2) := by
    decide +kernel
  have hopen : (scan startedSelector).isOpen = false := by decide +kernel
  have hkill : ∀ c ∈ "kill".toList, isWordPart c := List.all_eq_true.mp (by decide +kernel)
  have hpig : ∀ c ∈ "pig".toList, isWordPart c := List.all_eq_true.mp (by decide +kernel)
  obtain ⟨hhead, hheads⟩ := (context_kept_while_typing startedSelector ['.']).2.2 rfl hopen
  exact ⟨⟨hmember, (context_kept_while_typing dottedSelector ['(', ')']).1 5 _ (.inr rfl) hmember
      _ hkill 8 (by decide) (by decide)⟩,
    ⟨hparam, (context_kept_while_typing openGroup [']']).2.1 2 _ (.inr (.inl rfl)) hparam
      _ (by decide) (by decide)⟩,
    hopen, hhead, hheads _ (by decide) hpig 5 (by decide) (by decide)⟩

end Datapack.Selector
