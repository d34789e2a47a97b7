import Datapack.FileTree
import Mathlib.Data.List.Basic

/-! Reading after writing and removing. Neither makes or removes a directory, so that a path goes on
to name the same place; what is read there is what was last written to it. -/

namespace Datapack.FileTree

variable {t t' : FileTree} {p q : Path} {names : List String}

/-! ### Nodes -/

theorem lookup_filter_ne (nodes : List (List String × FileNode)) (names other : List String) :
    (nodes.filter fun n => n.1 != names).lookup other =
      if other = names then none else nodes.lookup other := by
  induction nodes with
  | nil => simp
  | cons n nodes ih =>
      obtain ⟨key, node⟩ := n
      by_cases hkey : key = names
      · subst hkey
        by_cases hother : other = key
        · simpa [hother] using ih
        · have hne : (other == key) = false := by simpa using hother
          simpa [hother, List.lookup_cons, hne] using ih
      · by_cases hother : other = key
        · simp [hkey, hother]
        · have hne : (other == key) = false := by simpa using hother
          simpa [hkey, List.lookup_cons, hne] using ih

theorem node?_erase (hnames : names ≠ []) (other : List String) :
    (t.erase names).node? other = if other = names then none else t.node? other := by
  by_cases hother : other = []
  · have hne : ¬([] : List String) = names := fun heq => hnames heq.symm
    simp [node?, hother, hne]
  · simp [node?, hother, erase, lookup_filter_ne]

/-- Where the directories above are there, a node is put in its place and nothing else changes. -/
theorem node?_insert (hnames : names ≠ [])
    (habove : ∀ n < names.length, (t.node? (names.take n)).isSome) (node : FileNode)
    (other : List String) :
    (t.insert names node).node? other = if other = names then some node else t.node? other := by
  have hnone : ((List.range names.length).filterMap fun n =>
      if n = 0 ∨ (t.node? (names.take n)).isSome then none
      else some (names.take n, FileNode.directory)) = [] := by
    rw [List.filterMap_eq_nil_iff]
    intro n hn
    simp [habove n (List.mem_range.mp hn)]
  by_cases hother : other = []
  · have hne : ¬([] : List String) = names := fun heq => hnames heq.symm
    simp [node?, hother, hne]
  · have herase := node?_erase (t := t) hnames other
    simp only [node?, hother, if_false] at herase ⊢
    simp only [insert, hnone, List.nil_append, List.lookup_append, herase]
    by_cases heq : other = names
    · simp [heq]
    · have hne : (other == names) = false := by simpa using heq
      simp [heq, List.lookup_cons, hne]

/-! ### Places -/

/-- Two trees with the same directories. -/
def SameDirectories (t t' : FileTree) : Prop :=
  ∀ names, t'.node? names = some .directory ↔ t.node? names = some .directory

/-- A path that names a place names it as long as the directories stay. -/
theorem SameDirectories.locate_eq (h : SameDirectories t t') (seen names : List String) :
    (t'.locate seen names).toOption = (t.locate seen names).toOption := by
  induction names generalizing seen with
  | nil => rfl
  | cons name names ih =>
      have hseen := h seen
      by_cases hdirectory : t.node? seen = some .directory
      · unfold locate
        simp only [hdirectory, hseen.mpr hdirectory]
        split
        · rfl
        · split <;> exact ih _
      · have hnone (t : FileTree) (hne : t.node? seen ≠ some .directory) :
            (t.locate seen (name :: names)).toOption = none := by
          unfold locate
          split
          · rfl
          · rfl
          · next heq => exact absurd heq hne
        rw [hnone t hdirectory, hnone t' fun heq => hdirectory (hseen.mp heq)]

theorem SameDirectories.place_eq (h : SameDirectories t t') (p : Path) :
    (t'.place p).toOption = (t.place p).toOption := by
  unfold place
  split
  · rfl
  · split
    · rfl
    · have hlocate := h.locate_eq [] p.parts
      revert hlocate
      cases t.locate [] p.parts <;> cases t'.locate [] p.parts <;>
        simp [Except.toOption, Except.mapError]

theorem place_ok (h : (t.place p).toOption = some names) : t.place p = .ok names := by
  cases hplace : t.place p with
  | ok names' =>
      rw [hplace] at h
      exact congrArg Except.ok (Option.some.inj h)
  | error e =>
      rw [hplace] at h
      cases h

theorem SameDirectories.place_ok (h : SameDirectories t t') (hplace : t.place p = .ok names) :
    t'.place p = .ok names :=
  FileTree.place_ok (by rw [h.place_eq, hplace]; rfl)

theorem place_of_null (t : FileTree) (h : p.parts.any (·.toList.contains (Char.ofNat 0))) :
    t.place p = .error .nullInPath := by
  unfold place
  rw [if_pos h]

/-- A path fails to name a place for a null character, or for a failure of the operating system. -/
theorem place_error {e : Fault} (h : t.place p = .error e) :
    e = .nullInPath ∧ p.parts.any (·.toList.contains (Char.ofNat 0)) ∨ ∃ error, e = .os error := by
  unfold place at h
  split at h
  · next hnull =>
      cases h
      exact .inl ⟨rfl, hnull⟩
  · split at h
    · cases h
      exact .inr ⟨_, rfl⟩
    · cases hlocate : t.locate [] p.parts with
      | ok names => simp [hlocate, Except.mapError] at h
      | error error =>
          simp only [hlocate, Except.mapError, Except.error.injEq] at h
          exact .inr ⟨error, h.symm⟩

/-- All names on the way to a place lead to directories. -/
theorem above_of_locate {seen out : List String}
    (hseen : ∀ n < seen.length, t.node? (seen.take n) = some .directory)
    (h : t.locate seen names = .ok out) :
    ∀ n < out.length, t.node? (out.take n) = some .directory := by
  induction names generalizing seen with
  | nil =>
      cases h
      exact hseen
  | cons name names ih =>
      unfold locate at h
      split at h
      · cases h
      · cases h
      · next hdirectory =>
          split at h
          · cases h
          · split at h
            · refine ih ?_ h
              intro n hn
              rw [List.length_dropLast] at hn
              rw [List.dropLast_eq_take, List.take_take, Nat.min_eq_left (Nat.le_of_lt hn)]
              exact hseen n (Nat.lt_of_lt_of_le hn (Nat.sub_le _ _))
            · refine ih ?_ h
              intro n hn
              rw [List.length_append, List.length_singleton] at hn
              rw [List.take_append_of_le_length (Nat.le_of_lt_succ hn)]
              rcases Nat.lt_succ_iff_lt_or_eq.mp hn with hn | rfl
              · exact hseen n hn
              · rwa [List.take_length]

theorem above_of_place (h : t.place p = .ok names) :
    ∀ n < names.length, t.node? (names.take n) = some .directory := by
  unfold place at h
  split at h
  · cases h
  · split at h
    · cases h
    · cases hlocate : t.locate [] p.parts with
      | error error => simp [hlocate, Except.mapError] at h
      | ok out =>
          simp only [hlocate, Except.mapError, Except.ok.injEq] at h
          subst h
          exact above_of_locate (by simp) hlocate

/-! ### Writing and removing -/

/-- What writing does: a file is put where the path leads to, in a directory that is there. -/
theorem write_ok {bytes : Text.Bytes} (h : t.write p bytes = .ok t') :
    ∃ names, t.place p = .ok names ∧ t.node? names ≠ some .directory ∧
      ∀ other, t'.node? other = if other = names then some (.file bytes) else t.node? other := by
  unfold write at h
  cases hplace : t.place p with
  | error e => simp [hplace, bind, Except.bind] at h
  | ok names =>
      simp only [hplace, bind, Except.bind] at h
      split at h
      · cases h
      · next hfile =>
          refine ⟨names, rfl, hfile, ?_⟩
          have hnames : names ≠ [] := by
            rintro rfl
            simp [node?] at hfile
          have habove := above_of_place hplace
          split at h
          · cases h
            exact node?_insert hnames (fun n hn => by simp [habove n hn]) _
          · cases h
          · cases h

/-- What removing does: nothing is left where the path leads to. -/
theorem remove_ok (h : t.remove p = .ok t') :
    t' = t ∧ t.place p = .error (.os .notFound) ∨
      ∃ names, t.place p = .ok names ∧ t.node? names ≠ some .directory ∧
        ∀ other, t'.node? other = if other = names then none else t.node? other := by
  unfold remove at h
  split at h
  · next hplace =>
      cases h
      exact .inl ⟨rfl, hplace⟩
  · cases h
  · next names hplace =>
      split at h
      · next hnone =>
          cases h
          refine .inr ⟨names, hplace, by simp [hnone], fun other => ?_⟩
          split
          · next heq => rw [heq, hnone]
          · rfl
      · cases h
      · next hfile =>
          cases h
          have hnames : names ≠ [] := by
            rintro rfl
            simp [node?] at hfile
          exact .inr ⟨names, hplace, by simp [hfile], node?_erase hnames⟩

theorem remove_error {e : Fault} (h : t.remove p = .error e) :
    e = .nullInPath ∧ p.parts.any (·.toList.contains (Char.ofNat 0)) ∨ ∃ error, e = .os error := by
  unfold remove at h
  split at h
  · cases h
  · next hplace =>
      cases h
      exact place_error hplace
  · split at h
    · cases h
    · cases h
      exact .inr ⟨_, rfl⟩
    · cases h

theorem SameDirectories.of_node? {node : Option FileNode} (hold : t.node? names ≠ some .directory)
    (hnew : node ≠ some .directory)
    (h : ∀ other, t'.node? other = if other = names then node else t.node? other) :
    SameDirectories t t' := by
  intro other
  rw [h other]
  split
  · next heq => simp [heq, hold, hnew]
  · rfl

/-! ### Reading -/

/-- What a file holds, if reading it gives anything; else reading fails in the operating system. -/
def Holds (t : FileTree) (p : Path) : Option Text.Bytes → Prop
  | some bytes => t.read p = .ok bytes
  | none => ∃ error, t.read p = .error (.os error)

theorem read_of_place (h : t.place p = .ok names) :
    t.read p = match t.node? names with
      | none => .error (.os .notFound)
      | some .directory => .error (.os .isDirectory)
      | some (.file bytes) => .ok bytes := by
  cases hnode : t.node? names with
  | none => simp [read, h, hnode, bind, Except.bind]
  | some node => cases node <;> simp [read, h, hnode, bind, Except.bind]

/-- Where a path still leads to the same place and the same is found there, reading gives the same. -/
theorem Holds.imp {content : Option Text.Bytes} (h : t.Holds p content)
    (hdirectories : SameDirectories t t')
    (hsame : ∀ names, t.place p = .ok names → t'.node? names = t.node? names) :
    t'.Holds p content := by
  have hplaces := hdirectories.place_eq p
  cases hplace : t.place p with
  | ok names =>
      have hread : t'.read p = t.read p := by
        rw [read_of_place hplace, read_of_place (hdirectories.place_ok hplace), hsame names hplace]
      cases content <;> simpa only [Holds, hread] using h
  | error e =>
      have hfails {t : FileTree} {e : Fault} (hplace : t.place p = .error e) :
          t.read p = .error e := by
        simp [read, hplace, bind, Except.bind]
      cases content with
      | some bytes => simp [Holds, hfails hplace] at h
      | none =>
          obtain ⟨error, herror⟩ := h
          rw [hfails hplace, Except.error.injEq] at herror
          cases hplace' : t'.place p with
          | ok names =>
              rw [hplace, hplace'] at hplaces
              cases hplaces
          | error e' =>
              rcases place_error hplace' with ⟨_, hnull⟩ | ⟨error', rfl⟩
              · rw [place_of_null t hnull, Except.error.injEq] at hplace
                rw [← hplace] at herror
                cases herror
              · exact ⟨error', hfails hplace'⟩

/-- A file that was removed cannot be read. -/
theorem holds_of_remove (h : t.remove p = .ok t') : t'.Holds p none := by
  rcases remove_ok h with ⟨rfl, hplace⟩ | ⟨names, hplace, hfile, hnodes⟩
  · exact ⟨.notFound, by simp [read, hplace, bind, Except.bind]⟩
  · have hdirectories : SameDirectories t t' := .of_node? hfile (by simp) hnodes
    exact ⟨.notFound, by simp [read_of_place (hdirectories.place_ok hplace), hnodes]⟩

/-- After a write, a path that leads to the same place reads what was written, and every other path
reads what it read before. -/
theorem Holds.write {content : Option Text.Bytes} (h : t.Holds q content) {bytes : Text.Bytes}
    (hwrite : t.write p bytes = .ok t') :
    t'.Holds q (if (t.place p).toOption = (t.place q).toOption then some bytes else content) := by
  obtain ⟨names, hplace, hfile, hnodes⟩ := write_ok hwrite
  have hdirectories : SameDirectories t t' := .of_node? hfile (by simp) hnodes
  split
  · next heq =>
      have hplace' : t.place q = .ok names := place_ok (by rw [← heq, hplace]; rfl)
      simp [Holds, read_of_place (hdirectories.place_ok hplace'), hnodes]
  · next hne =>
      refine h.imp hdirectories ?_
      intro other hother
      have hother' : other ≠ names := by
        rintro rfl
        exact hne (by rw [hplace, hother])
      rw [hnodes, if_neg hother']

end Datapack.FileTree
