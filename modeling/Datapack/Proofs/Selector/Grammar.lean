import Datapack.Selector.Scan
import Mathlib.Data.List.Induction

/-! The selector machine against a grammar. Where a text leaves the machine is decided by how the
text ends: in an `@` and a head word, in an open group behind such a head, in a closed group, or in
none of these. An `@` counts only outside of open groups. -/

namespace Datapack.Selector

open Text

/-! ### Classes of characters -/

theorem inRanges_iff_mem {ranges : List (Nat × Nat)} {n : Nat} :
    inRanges ranges n ↔ n ∈ ranges.flatMap fun r => List.range' r.1 (r.2 + 1 - r.1) := by
  simp only [inRanges, List.any_eq_true, Bool.and_eq_true, decide_eq_true_eq, List.mem_flatMap,
    List.mem_range'_1]
  constructor
  · rintro ⟨r, hr, hlow, hhigh⟩
    exact ⟨r, hr, hlow, by omega⟩
  · rintro ⟨r, hr, hlow, hhigh⟩
    exact ⟨r, hr, hlow, by omega⟩

theorem isWordPart_of_isBlank {c : Char} (h : isBlank c) : isWordPart c = false := by
  have hall : ∀ n ∈ blankRanges.flatMap fun r => List.range' r.1 (r.2 + 1 - r.1),
      isWordPart (Char.ofNat n) = false := by decide +kernel
  have hc := hall c.toNat (inRanges_iff_mem.mp h)
  rwa [Char.ofNat_toNat] at hc

/-- The characters that structure a selector are neither blank nor part of a word. -/
theorem delimiter_class :
    ∀ c ∈ ['@', '[', ']', '.'], isBlank c = false ∧ isWordPart c = false := by
  have hall : ['@', '[', ']', '.'].all fun c => !isBlank c && !isWordPart c := by decide +kernel
  intro c hc
  simpa using List.all_eq_true.mp hall c hc

theorem ne_of_isWordPart {c d : Char} (hc : isWordPart c) (hd : d ∈ ['@', '[', ']', '.']) :
    c ≠ d := by
  rintro rfl
  simp [(delimiter_class c hd).2] at hc

theorem ne_of_isBlank {c d : Char} (hc : isBlank c) (hd : d ∈ ['@', '[', ']', '.']) : c ≠ d := by
  rintro rfl
  simp [(delimiter_class c hd).1] at hc

theorem not_mem_blanks {blanks : List Char} (h : ∀ c ∈ blanks, isBlank c) {d : Char}
    (hd : d ∈ ['@', '[', ']', '.']) : d ∉ blanks :=
  fun hmem => ne_of_isBlank (h d hmem) hd rfl

theorem not_mem_word {word : List Char} (h : ∀ c ∈ word, isWordPart c) {d : Char}
    (hd : d ∈ ['@', '[', ']', '.']) : d ∉ word :=
  fun hmem => ne_of_isWordPart (h d hmem) hd rfl

/-! ### Reading on -/

namespace Scan

def isOpen : Scan → Bool
  | inBracket _ => true
  | _ => false

theorem isOpen_iff {s : Scan} : s.isOpen ↔ ∃ b, s = inBracket b := by
  cases s <;> simp [isOpen]

theorem runFrom_append (index : Nat) (s : Scan) (xs ys : List Char) :
    runFrom index s (xs ++ ys) = runFrom (index + xs.length) (runFrom index s xs) ys := by
  induction xs generalizing index s with
  | nil => simp [runFrom]
  | cons x xs ih =>
      simp only [List.cons_append, runFrom, ih, List.length_cons]
      congr 1
      omega

theorem step_at {s : Scan} (h : s.isOpen = false) (index : Nat) :
    s.step index '@' = afterAt 0 := by
  cases s with
  | inBracket b => simp [isOpen] at h
  | _ => simp [step]

theorem step_close {s : Scan} (h : s.isOpen) (index : Nat) : s.step index ']' = afterClose := by
  cases s with
  | inBracket b => simp [step]
  | _ => simp [isOpen] at h

theorem runFrom_blanks (index : Nat) {blanks : List Char} (h : ∀ c ∈ blanks, isBlank c) :
    runFrom index (afterAt 0) blanks = afterAt 0 ∧
      runFrom index afterClose blanks = afterClose := by
  induction blanks generalizing index with
  | nil => exact ⟨rfl, rfl⟩
  | cons c blanks ih =>
      have hc : isBlank c := h c (by simp)
      have hat : c ≠ '@' := ne_of_isBlank hc (by simp)
      have hword := isWordPart_of_isBlank hc
      simpa [runFrom, step, hc, hat, hword] using
        ih (index + 1) fun d hd => h d (List.mem_cons_of_mem c hd)

theorem runFrom_word (index n : Nat) {word : List Char} (h : ∀ c ∈ word, isWordPart c) :
    runFrom index (afterAt n) word = afterAt (n + word.length) := by
  induction word generalizing index n with
  | nil => rfl
  | cons c word ih =>
      have hc : isWordPart c := h c (by simp)
      have hat : c ≠ '@' := ne_of_isWordPart hc (by simp)
      have hrest := ih (index + 1) (n + 1) fun d hd => h d (List.mem_cons_of_mem c hd)
      simp only [runFrom, step, hat, hc, if_false, if_true, hrest, List.length_cons]
      congr 1
      omega

theorem runFrom_body (index b : Nat) {body : List Char} (h : ∀ c ∈ body, c ≠ '[' ∧ c ≠ ']') :
    runFrom index (inBracket b) body = inBracket b := by
  induction body generalizing index with
  | nil => rfl
  | cons c body ih =>
      obtain ⟨hopen, hclose⟩ := h c (by simp)
      simpa [runFrom, step, hopen, hclose] using
        ih (index + 1) fun d hd => h d (List.mem_cons_of_mem c hd)

end Scan

theorem scan_append (xs ys : List Char) :
    scan (xs ++ ys) = Scan.runFrom xs.length (scan xs) ys := by
  rw [scan, Scan.runFrom_append, Nat.zero_add, scan]

theorem scan_concat (cs : List Char) (c : Char) :
    scan (cs ++ [c]) = (scan cs).step cs.length c := by
  rw [scan_append]
  rfl

/-! ### The grammar -/

/-- The text ends in an `@` outside of open groups, blanks, and `n` characters of a word. -/
def EndsInHead (cs : List Char) (n : Nat) : Prop :=
  ∃ before blanks head, cs = before ++ '@' :: (blanks ++ head) ∧
    (∀ c ∈ blanks, isBlank c) ∧ (∀ c ∈ head, isWordPart c) ∧ head.length = n ∧
    (scan before).isOpen = false

/-- The text ends in a group that is open: behind an `@` outside of open groups, blanks and a word
stands a `[` at offset `b`, and no bracket after it. -/
def EndsInGroup (cs : List Char) (b : Nat) : Prop :=
  ∃ before blanks head body, cs = before ++ '@' :: (blanks ++ head) ++ '[' :: body ∧
    (∀ c ∈ blanks, isBlank c) ∧ (∀ c ∈ head, isWordPart c) ∧ head ≠ [] ∧
    (∀ c ∈ body, c ≠ '[' ∧ c ≠ ']') ∧ b = (before ++ '@' :: (blanks ++ head)).length ∧
    (scan before).isOpen = false

/-- The text ends in the `]` of a group that was open before it, and blanks. -/
def EndsInClose (cs : List Char) : Prop :=
  ∃ inner blanks, cs = inner ++ ']' :: blanks ∧ (scan inner).isOpen ∧ ∀ c ∈ blanks, isBlank c

theorem scan_head {before blanks head : List Char} (hblanks : ∀ c ∈ blanks, isBlank c)
    (hhead : ∀ c ∈ head, isWordPart c) (hopen : (scan before).isOpen = false) :
    scan (before ++ '@' :: (blanks ++ head)) = .afterAt head.length := by
  rw [scan_append, Scan.runFrom, Scan.step_at hopen, Scan.runFrom_append,
    (Scan.runFrom_blanks _ hblanks).1, Scan.runFrom_word _ _ hhead, Nat.zero_add]

theorem EndsInHead.scan_eq {cs : List Char} {n : Nat} (h : EndsInHead cs n) :
    scan cs = .afterAt n := by
  obtain ⟨before, blanks, head, rfl, hblanks, hhead, rfl, hopen⟩ := h
  exact scan_head hblanks hhead hopen

theorem EndsInGroup.scan_eq {cs : List Char} {b : Nat} (h : EndsInGroup cs b) :
    scan cs = .inBracket b := by
  obtain ⟨before, blanks, head, body, rfl, hblanks, hhead, hne, hbody, rfl, hopen⟩ := h
  have hlength : 0 < head.length := List.length_pos_iff.mpr hne
  have hstep (index : Nat) :
      (Scan.afterAt head.length).step index '[' = .inBracket index := by
    have hclass := delimiter_class '[' (by simp)
    simp [Scan.step, hclass, hlength]
  rw [scan_append, scan_head hblanks hhead hopen, Scan.runFrom, hstep, Scan.runFrom_body _ _ hbody]

theorem EndsInClose.scan_eq {cs : List Char} (h : EndsInClose cs) : scan cs = .afterClose := by
  obtain ⟨inner, blanks, rfl, hopen, hblanks⟩ := h
  rw [scan_append, Scan.runFrom, Scan.step_close hopen, (Scan.runFrom_blanks _ hblanks).2]

/-! ### One character more -/

/-- How a text ends that leaves the machine in some state. -/
def Scan.Describes (cs : List Char) : Scan → Prop
  | .outside => True
  | .afterAt n => EndsInHead cs n
  | .inBracket b => EndsInGroup cs b
  | .afterClose => EndsInClose cs

theorem endsInHead_at {cs : List Char} (h : (scan cs).isOpen = false) :
    EndsInHead (cs ++ ['@']) 0 :=
  ⟨cs, [], [], by simp, by simp, by simp, rfl, h⟩

theorem EndsInHead.word {cs : List Char} {n : Nat} (h : EndsInHead cs n) {c : Char}
    (hc : isWordPart c) : EndsInHead (cs ++ [c]) (n + 1) := by
  obtain ⟨before, blanks, head, rfl, hblanks, hhead, rfl, hopen⟩ := h
  refine ⟨before, blanks, head ++ [c], by simp, hblanks, ?_, by simp, hopen⟩
  exact List.forall_mem_append.mpr ⟨hhead, List.forall_mem_singleton.mpr hc⟩

theorem EndsInHead.blank {cs : List Char} (h : EndsInHead cs 0) {c : Char} (hc : isBlank c) :
    EndsInHead (cs ++ [c]) 0 := by
  obtain ⟨before, blanks, head, rfl, hblanks, _, hlength, hopen⟩ := h
  obtain rfl := List.eq_nil_of_length_eq_zero hlength
  refine ⟨before, blanks ++ [c], [], by simp, ?_, by simp, rfl, hopen⟩
  exact List.forall_mem_append.mpr ⟨hblanks, List.forall_mem_singleton.mpr hc⟩

theorem EndsInHead.bracket {cs : List Char} {n : Nat} (h : EndsInHead cs n) (hn : 0 < n) :
    EndsInGroup (cs ++ ['[']) cs.length := by
  obtain ⟨before, blanks, head, rfl, hblanks, hhead, rfl, hopen⟩ := h
  exact ⟨before, blanks, head, [], rfl, hblanks, hhead, List.length_pos_iff.mp hn, by simp, rfl,
    hopen⟩

theorem EndsInGroup.body {cs : List Char} {b : Nat} (h : EndsInGroup cs b) {c : Char}
    (hc : c ≠ '[' ∧ c ≠ ']') : EndsInGroup (cs ++ [c]) b := by
  obtain ⟨before, blanks, head, body, rfl, hblanks, hhead, hne, hbody, hb, hopen⟩ := h
  refine ⟨before, blanks, head, body ++ [c], by simp, hblanks, hhead, hne, ?_, hb, hopen⟩
  exact List.forall_mem_append.mpr ⟨hbody, List.forall_mem_singleton.mpr hc⟩

theorem EndsInClose.blank {cs : List Char} (h : EndsInClose cs) {c : Char} (hc : isBlank c) :
    EndsInClose (cs ++ [c]) := by
  obtain ⟨inner, blanks, rfl, hopen, hblanks⟩ := h
  refine ⟨inner, blanks ++ [c], by simp, hopen, ?_⟩
  exact List.forall_mem_append.mpr ⟨hblanks, List.forall_mem_singleton.mpr hc⟩

theorem describes_step {cs : List Char} (h : (scan cs).Describes cs) (c : Char) :
    ((scan cs).step cs.length c).Describes (cs ++ [c]) := by
  by_cases hat : c = '@' ∧ (scan cs).isOpen = false
  · obtain ⟨rfl, hopen⟩ := hat
    rw [Scan.step_at hopen]
    exact endsInHead_at hopen
  cases hs : scan cs with
  | outside =>
      have hc : c ≠ '@' := fun hc => hat ⟨hc, by simp [hs, Scan.isOpen]⟩
      simp [Scan.step, hc, Scan.Describes]
  | afterAt n =>
      rw [hs] at h
      have hc : c ≠ '@' := fun hc => hat ⟨hc, by simp [hs, Scan.isOpen]⟩
      simp only [Scan.step, hc, if_false]
      split
      · next hword => exact EndsInHead.word h hword
      · split
        · next hblank =>
            simp only [Bool.and_eq_true, beq_iff_eq] at hblank
            obtain ⟨hblank, rfl⟩ := hblank
            exact EndsInHead.blank h hblank
        · split
          · next hbracket =>
              simp only [Bool.and_eq_true, decide_eq_true_eq] at hbracket
              obtain ⟨rfl, hn⟩ := hbracket
              exact EndsInHead.bracket h hn
          · trivial
  | inBracket b =>
      rw [hs] at h
      simp only [Scan.step]
      split
      · next hclose =>
          subst c
          exact ⟨cs, [], rfl, by simp [hs, Scan.isOpen], by simp⟩
      · next hclose =>
          split
          · trivial
          · next hbracket => exact EndsInGroup.body h ⟨hbracket, hclose⟩
  | afterClose =>
      rw [hs] at h
      have hc : c ≠ '@' := fun hc => hat ⟨hc, by simp [hs, Scan.isOpen]⟩
      simp only [Scan.step, hc, if_false]
      split
      · next hblank => exact EndsInClose.blank h hblank
      · trivial

theorem scan_describes (cs : List Char) : (scan cs).Describes cs := by
  induction cs using List.reverseRecOn with
  | nil => trivial
  | append_singleton cs c ih =>
      rw [scan_concat]
      exact describes_step ih c

/-! ### Whole texts -/

theorem describes_of_scan_eq {cs : List Char} {s : Scan} (h : scan cs = s) : s.Describes cs :=
  h ▸ scan_describes cs

theorem scan_eq_afterAt_iff {cs : List Char} {n : Nat} :
    scan cs = .afterAt n ↔ EndsInHead cs n :=
  ⟨describes_of_scan_eq, EndsInHead.scan_eq⟩

theorem scan_eq_inBracket_iff {cs : List Char} {b : Nat} :
    scan cs = .inBracket b ↔ EndsInGroup cs b :=
  ⟨describes_of_scan_eq, EndsInGroup.scan_eq⟩

theorem scan_eq_afterClose_iff {cs : List Char} : scan cs = .afterClose ↔ EndsInClose cs :=
  ⟨describes_of_scan_eq, EndsInClose.scan_eq⟩

theorem isOpen_eq_false_of_not_mem {cs : List Char} (h : '[' ∉ cs) : (scan cs).isOpen = false := by
  by_contra hopen
  rw [Bool.not_eq_false] at hopen
  obtain ⟨b, hb⟩ := Scan.isOpen_iff.mp hopen
  obtain ⟨before, blanks, head, body, rfl, _⟩ := scan_eq_inBracket_iff.mp hb
  simp at h

/-- What stands before a `]` that closes a group. -/
theorem endsInClose_iff {cs : List Char} :
    EndsInClose cs ↔ ∃ before blanks head body trailing,
      cs = before ++ '@' :: (blanks ++ head) ++ '[' :: (body ++ ']' :: trailing) ∧
      (∀ c ∈ blanks, isBlank c) ∧ (∀ c ∈ head, isWordPart c) ∧ head ≠ [] ∧
      (∀ c ∈ body, c ≠ '[' ∧ c ≠ ']') ∧ (∀ c ∈ trailing, isBlank c) ∧
      (scan before).isOpen = false := by
  constructor
  · rintro ⟨inner, trailing, rfl, hinner, htrailing⟩
    obtain ⟨b, hb⟩ := Scan.isOpen_iff.mp hinner
    obtain ⟨before, blanks, head, body, rfl, hblanks, hhead, hne, hbody, _, hopen⟩ :=
      scan_eq_inBracket_iff.mp hb
    exact ⟨before, blanks, head, body, trailing, by simp, hblanks, hhead, hne, hbody, htrailing,
      hopen⟩
  · rintro ⟨before, blanks, head, body, trailing, rfl, hblanks, hhead, hne, hbody, htrailing, hopen⟩
    refine ⟨before ++ '@' :: (blanks ++ head) ++ '[' :: body, trailing, by simp, ?_, htrailing⟩
    have hgroup : EndsInGroup (before ++ '@' :: (blanks ++ head) ++ '[' :: body) _ :=
      ⟨before, blanks, head, body, rfl, hblanks, hhead, hne, hbody, rfl, hopen⟩
    exact Scan.isOpen_iff.mpr ⟨_, hgroup.scan_eq⟩

/-- Each state of the machine is exactly one way in which a text ends, and the machine is outside
of selectors after all other texts. -/
theorem scan_state_iff_ending (cs : List Char) :
    (∀ n, scan cs = .afterAt n ↔ EndsInHead cs n) ∧
    (∀ b, scan cs = .inBracket b ↔ EndsInGroup cs b) ∧
    (scan cs = .afterClose ↔ EndsInClose cs) ∧
    (scan cs = .outside ↔
      (∀ n, ¬EndsInHead cs n) ∧ (∀ b, ¬EndsInGroup cs b) ∧ ¬EndsInClose cs) := by
  refine ⟨fun n => scan_eq_afterAt_iff, fun b => scan_eq_inBracket_iff, scan_eq_afterClose_iff, ?_⟩
  simp only [← scan_eq_afterAt_iff, ← scan_eq_inBracket_iff, ← scan_eq_afterClose_iff]
  cases scan cs <;> simp

end Datapack.Selector
