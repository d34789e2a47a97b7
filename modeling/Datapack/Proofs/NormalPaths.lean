import Datapack.Path
import Mathlib.Data.List.TakeWhile

/-! Paths in normal form. The names of a path that was read are neither empty nor the directory
itself and hold no slash. Such a path is read back from what is written of it. -/

namespace Datapack.Path

/-! ### Names between slashes -/

theorem pieces_eq_splitOn (cs : List Char) : pieces cs = cs.splitOn '/' := by
  induction cs using pieces.induct with
  | case1 => rfl
  | case2 rest ih => rw [pieces, ih, List.splitOn_cons_eq_if_modifyHead, if_pos (by simp)]
  | case3 c rest hc hnil ih => exact absurd (ih.symm.trans hnil) (List.splitOn_ne_nil '/' rest)
  | case4 c rest hc first more heq ih =>
      have hslash : (c == '/') = false := by simpa using hc
      rw [pieces.eq_3 _ _ hc, heq, List.splitOn_cons_eq_if_modifyHead, hslash, ← ih, heq]
      rfl

theorem not_mem_of_mem_pieces {cs piece : List Char} (h : piece ∈ pieces cs) :
    '/' ∉ piece := by
  induction cs using pieces.induct generalizing piece with
  | case1 => simp_all [pieces]
  | case2 rest ih =>
      rcases List.mem_cons.mp (by simpa [pieces] using h) with rfl | h
      · exact List.not_mem_nil
      · exact ih h
  | case3 c rest hc hnil ih =>
      rw [pieces.eq_3 _ _ hc, hnil] at h
      obtain rfl := List.mem_singleton.mp h
      simpa using fun hslash : '/' = c => hc hslash.symm
  | case4 c rest hc first more heq ih =>
      rw [pieces.eq_3 _ _ hc, heq] at h
      rcases List.mem_cons.mp h with rfl | h
      · rw [List.mem_cons, not_or]
        exact ⟨fun hslash => hc hslash.symm, ih (heq ▸ List.mem_cons_self)⟩
      · exact ih (heq ▸ List.mem_cons_of_mem _ h)

/-- A name that counts in a path. -/
structure IsName (name : String) : Prop where
  ne_nil : name.toList ≠ []
  ne_dot : name.toList ≠ ['.']
  no_slash : '/' ∉ name.toList

theorem isName_of_mem_parts {s name : String} (h : name ∈ (ofString s).parts) : IsName name := by
  obtain ⟨piece, hpiece, rfl⟩ := List.mem_map.mp h
  obtain ⟨hpiece, hcounts⟩ := List.mem_filter.mp hpiece
  rw [Bool.and_eq_true, bne_iff_ne, bne_iff_ne] at hcounts
  refine ⟨?_, ?_, ?_⟩ <;> rw [String.toList_ofList]
  · exact hcounts.1
  · exact hcounts.2
  · exact not_mem_of_mem_pieces hpiece

theorem isName_of_mem_parts_child {folder : Path} (h : ∀ name ∈ folder.parts, IsName name)
    {s name : String} (hname : name ∈ (folder.child s).parts) : IsName name := by
  rw [child, join] at hname
  split at hname
  · exact isName_of_mem_parts hname
  · rcases List.mem_append.mp hname with hname | hname
    · exact h name hname
    · exact isName_of_mem_parts hname

theorem names_slash (cs : List Char) : names ('/' :: cs) = names cs := by
  simp [names, pieces]

section

variable {parts : List String} (h : ∀ name ∈ parts, IsName name)

include h

theorem names_intercalate : names (['/'].intercalate (parts.map String.toList)) = parts := by
  cases parts with
  | nil => decide
  | cons name more =>
      have hslash : ∀ cs ∈ (name :: more).map String.toList, '/' ∉ cs := by
        intro cs hcs
        obtain ⟨name', hname', rfl⟩ := List.mem_map.mp hcs
        exact (h name' hname').no_slash
      have hcounts : ∀ cs ∈ (name :: more).map String.toList, (cs != [] && cs != ['.']) = true := by
        intro cs hcs
        obtain ⟨name', hname', rfl⟩ := List.mem_map.mp hcs
        simp [(h name' hname').ne_nil, (h name' hname').ne_dot]
      rw [names, pieces_eq_splitOn, List.splitOn_intercalate '/' hslash (by simp),
        List.filter_eq_self.mpr hcounts, List.map_map]
      simp

theorem head?_intercalate_ne : (['/'].intercalate (parts.map String.toList)).head? ≠ some '/' := by
  cases parts with
  | nil => simp
  | cons name more =>
      obtain ⟨hne, _, hslash⟩ := h name List.mem_cons_self
      obtain ⟨c, cs, hname⟩ := List.exists_cons_of_ne_nil hne
      have hc : c ≠ '/' := by
        rintro rfl
        exact hslash (by simp [hname])
      cases more <;> simp [List.intercalate, hname, hc]

end

/-! ### Writing and reading -/

theorem toList_toText_of_ne {p : Path} (h : ¬(p.root = .relative ∧ p.parts = [])) :
    p.toText.toList = (rootText p.root).toList ++ ['/'].intercalate (p.parts.map String.toList) := by
  rw [toText, if_neg h, String.toList_append, String.toList_intercalate]
  rfl

theorem toList_toText {p : Path} (h : p.root = .slash) :
    p.toText.toList = '/' :: ['/'].intercalate (p.parts.map String.toList) := by
  rw [toList_toText_of_ne (by simp [h]), h]
  rfl

theorem rootOf_append {cs : List Char} (hcs : cs.head? ≠ some '/') (root : PathRoot) :
    rootOf ((rootText root).toList ++ cs) = root := by
  have hnone : cs.takeWhile (· == '/') = [] := by
    cases cs with
    | nil => rfl
    | cons c cs => simpa using hcs
  cases root <;> simp [rootOf, rootText, hnone]

/-- A path is read back from what is written of it. -/
theorem ofString_toText {p : Path} (h : ∀ name ∈ p.parts, IsName name) : ofString p.toText = p := by
  by_cases hdot : p.root = .relative ∧ p.parts = []
  · obtain ⟨root, parts⟩ := p
    obtain ⟨rfl, rfl⟩ := hdot
    decide
  · have hnames (cs : List Char) : names ((rootText p.root).toList ++ cs) = names cs := by
      cases p.root
      · rfl
      · exact names_slash cs
      · exact (names_slash ('/' :: cs)).trans (names_slash cs)
    rw [ofString, toList_toText_of_ne hdot, rootOf_append (head?_intercalate_ne h), hnames,
      names_intercalate h]

theorem ofString_toText_ofString (s : String) : ofString (ofString s).toText = ofString s :=
  ofString_toText fun _ => isName_of_mem_parts

end Datapack.Path
