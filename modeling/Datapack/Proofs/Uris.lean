import Datapack.Proofs.Ledger.Refusals
import Datapack.Proofs.NormalPaths
import Mathlib.Tactic.IntervalCases

/-! Uris that were made from paths. They hold only characters that need no escape, escapes and the
colons of a scheme and a drive, so none of them is refused when it is taken apart again. A path that
was resolved always has one. -/

namespace Datapack

open Text

namespace Uri

/-- The characters of which uris of paths are made. -/
def isPathUriChar (c : Char) : Bool := isPlainInPath c || c == '%' || c == ':'

theorem isPathUriChar_of_plain {c : Char} (h : isPlainInPath c) : isPathUriChar c := by
  simp [isPathUriChar, h]

/-! ### Making a uri -/

theorem isPlainInPath_hexDigitUpper {n : Nat} (h : n < 16) : isPlainInPath (hexDigitUpper n) := by
  interval_cases n <;> decide

theorem isPathUriChar_of_mem_percentByte {b : UInt8} {c : Char} (h : c ∈ percentByte b) :
    isPathUriChar c := by
  have hb : b.toNat < 256 := b.toNat_lt
  simp only [percentByte, List.mem_cons, List.not_mem_nil, or_false] at h
  rcases h with rfl | rfl | rfl
  · decide
  · exact isPathUriChar_of_plain (isPlainInPath_hexDigitUpper (by omega))
  · exact isPathUriChar_of_plain (isPlainInPath_hexDigitUpper (by omega))

theorem isPathUriChar_of_mem_percentEncode {cs : List Char} {c : Char} (h : c ∈ percentEncode cs) :
    isPathUriChar c := by
  obtain ⟨c', _, hc⟩ := List.mem_flatMap.mp h
  split at hc
  · next hplain => exact List.mem_singleton.mp hc ▸ isPathUriChar_of_plain hplain
  · obtain ⟨b, _, hc⟩ := List.mem_flatMap.mp hc
    exact isPathUriChar_of_mem_percentByte hc

theorem toNat_lt_of_isAlpha {c : Char} (h : c.isAlpha) : c.toNat < 128 := by
  have hletter : decide (c.val ≥ 'A'.val ∧ c.val ≤ 'Z'.val) = true ∨
      (decide (c.val ≥ 'a'.val) && decide (c.val ≤ 'z'.val)) = true := Bool.or_eq_true_iff.mp h
  rw [decide_eq_true_eq, Bool.and_eq_true, decide_eq_true_eq, decide_eq_true_eq] at hletter
  rcases hletter with ⟨-, h⟩ | ⟨-, h⟩
  · exact Nat.lt_of_le_of_lt (UInt32.le_iff_toNat_le.mp h) (by decide)
  · exact Nat.lt_of_le_of_lt (UInt32.le_iff_toNat_le.mp h) (by decide)

theorem isPathUriChar_of_mem_drive {cs : List Char} (hdrive : isDrivePath cs) {c : Char}
    (h : c ∈ cs.take 3) : isPathUriChar c := by
  unfold isDrivePath at hdrive
  split at hdrive
  · next letter rest =>
      have hascii := toNat_lt_of_isAlpha hdrive
      simp only [List.take_succ_cons, List.take_zero, List.mem_cons, List.not_mem_nil,
        or_false] at h
      rcases h with rfl | rfl | rfl
      · decide
      · refine isPathUriChar_of_plain ?_
        simp [isPlainInPath, hascii, Char.isAlphanum, hdrive]
      · decide
  · cases hdrive

theorem isPathUriChar_of_mem_quotePath {cs : List Char} {c : Char} (h : c ∈ quotePath cs) :
    isPathUriChar c := by
  unfold quotePath at h
  split at h
  · next hdrive =>
      rcases List.mem_append.mp h with h | h
      · exact isPathUriChar_of_mem_drive hdrive h
      · exact isPathUriChar_of_mem_percentEncode h
  · exact isPathUriChar_of_mem_percentEncode h

theorem isPathUriChar_of_mem_ofPathChars {cs uri : List Char} (h : ofPathChars cs = .ok uri)
    {c : Char} (hc : c ∈ uri) : isPathUriChar c := by
  have hscheme : ∀ c ∈ "file://".toList, isPathUriChar c :=
    List.all_eq_true.mp (by decide : "file://".toList.all isPathUriChar = true)
  unfold ofPathChars at h
  cases hsplit : splitAuthority cs with
  | error e => simp [hsplit, bind, Except.bind] at h
  | ok parts =>
      simp only [hsplit, bind, Except.bind, pure, Except.pure] at h
      generalize lowerDrive _ = path at h
      split at h
      · cases h
        rcases List.mem_append.mp hc with hc | hc
        · exact hscheme c (List.mem_append_left ['/', '/'] hc)
        · exact isPathUriChar_of_mem_quotePath hc
      · cases h
        rcases List.mem_append.mp hc with hc | hc
        · rcases List.mem_append.mp hc with hc | hc
          · exact hscheme c hc
          · exact isPathUriChar_of_mem_percentEncode hc
        · exact isPathUriChar_of_mem_quotePath hc

/-! ### Taking it apart -/

theorem checkBrackets_ok {authority : List Char} (h : ∀ c ∈ authority, isPathUriChar c) :
    checkBrackets authority = .ok () := by
  have hnone (c : Char) (hc : isPathUriChar c = false) : authority.contains c = false := by
    rw [← Bool.not_eq_true, List.contains_iff_mem]
    intro hmem
    exact Bool.false_ne_true (hc.symm.trans (h c hmem))
  rw [checkBrackets, hnone '[' (by decide), hnone ']' (by decide)]

theorem toNat_lt_of_isPathUriChar {c : Char} (h : isPathUriChar c) : c.toNat < 128 := by
  simp only [isPathUriChar, isPlainInPath, Bool.or_eq_true, Bool.and_eq_true, decide_eq_true_eq,
    beq_iff_eq] at h
  rcases h with (h | rfl) | rfl
  · exact h.1
  · decide
  · decide

/-- All lookalikes are beyond ASCII. -/
theorem isDelimiterLookalike_eq_false {c : Char} (h : isPathUriChar c) :
    isDelimiterLookalike c = false := by
  have hlt := toNat_lt_of_isPathUriChar h
  simp only [isDelimiterLookalike, List.contains_eq_mem, decide_eq_false_iff_not, List.mem_cons,
    List.not_mem_nil, or_false]
  omega

theorem checkLookalikes_ok {authority : List Char} (h : ∀ c ∈ authority, isPathUriChar c) :
    checkLookalikes authority = .ok () := by
  have hnone : authority.any isDelimiterLookalike = false := by
    rw [List.any_eq_false]
    intro c hc
    rw [isDelimiterLookalike_eq_false (h c hc)]
    exact Bool.false_ne_true
  rw [checkLookalikes, if_neg (by rw [hnone]; exact Bool.false_ne_true)]

theorem splitScheme_subset (cs : List Char) : (splitScheme cs).2 ⊆ cs := by
  unfold splitScheme
  dsimp only
  split
  · next rest hrest =>
      split
      · have hsuffix : ':' :: rest <:+ cs := hrest ▸ List.dropWhile_suffix _
        exact List.Subset.trans (List.subset_cons_self _ _) hsuffix.subset
      · exact List.Subset.refl cs
  · exact List.Subset.refl cs

theorem split_ok {cs : List Char} (h : ∀ c ∈ cs, isPathUriChar c) :
    ∃ parts, split cs = .ok parts := by
  have hrest : ∀ cs' ⊆ cs, ∀ c ∈ (splitScheme cs').2, isPathUriChar c :=
    fun cs' hcs c hc => h c (hcs (splitScheme_subset cs' hc))
  unfold split
  dsimp only
  generalize hcs : List.filter _ (List.dropWhile _ cs) = cs'
  have hcs' : cs' ⊆ cs :=
    hcs ▸ List.Subset.trans List.filter_sublist.subset (List.dropWhile_suffix _).subset
  specialize hrest cs' hcs'
  generalize splitScheme cs' = parts at hrest ⊢
  obtain ⟨scheme, rest⟩ := parts
  dsimp only at hrest ⊢
  by_cases hslashes : ['/', '/'].isPrefixOf rest
  · have hauthority : ∀ c ∈ (rest.drop 2).takeWhile (!isAuthorityEnd ·), isPathUriChar c :=
      fun c hc => hrest c (List.mem_of_mem_drop ((List.takeWhile_sublist _).subset hc))
    rw [if_pos hslashes]
    dsimp only
    rw [checkBrackets_ok hauthority, checkLookalikes_ok hauthority]
    exact ⟨_, rfl⟩
  · rw [if_neg hslashes]
    exact ⟨_, rfl⟩

/-- The uri of a path names a path again, or is no file uri. -/
theorem toPath_ok_of_ofPath {path uri : String} (h : ofPath path = .ok uri) :
    ∃ path', toPath uri = .ok path' := by
  unfold ofPath at h
  cases hchars : ofPathChars path.toList with
  | error e => simp [hchars, Except.map] at h
  | ok cs =>
      rw [hchars, Except.map, Except.ok.injEq] at h
      subst uri
      obtain ⟨parts, hparts⟩ := split_ok fun c hc => isPathUriChar_of_mem_ofPathChars hchars hc
      refine ⟨parts.toPath.map String.ofList, ?_⟩
      simp only [toPath, toPathChars, String.toList_ofList, hparts, Except.map]

end Uri

/-! ### Paths with one slash in front -/

theorem Path.mem_or_mem_of_mem_collapse {seen parts : List String} {name : String}
    (h : name ∈ collapse seen parts) : name ∈ seen ∨ name ∈ parts := by
  induction seen, parts using collapse.induct with
  | case1 seen => exact .inl (by simpa [collapse] using h)
  | case2 seen rest ih =>
      rw [collapse] at h
      exact (ih h).imp List.mem_of_mem_drop (List.mem_cons_of_mem _)
  | case3 seen name' rest hne ih =>
      rw [collapse.eq_3 _ _ _ hne] at h
      rcases ih h with h | h
      · rcases List.mem_cons.mp h with rfl | h
        · exact .inr List.mem_cons_self
        · exact .inl h
      · exact .inr (List.mem_cons_of_mem _ h)

/-- Behind the root a path goes on with a name, if it goes on at all. -/
theorem Path.not_doubleSlash {p : Path} (hroot : p.root = .slash)
    (hnames : ∀ name ∈ p.parts, IsName name) : ¬['/', '/'] <+: p.toText.toList := by
  rw [toList_toText hroot, List.cons_prefix_cons, and_iff_right rfl]
  rintro ⟨rest, hrest⟩
  exact head?_intercalate_ne hnames (by rw [← hrest, List.singleton_append, List.head?_cons])

theorem Path.isBareHost_resolve (s : String) :
    Uri.isBareHost (ofString s).resolve.toText = false := by
  have hnames : ∀ name ∈ (ofString s).resolve.parts, IsName name := by
    intro name hname
    rcases mem_or_mem_of_mem_collapse hname with hname | hname
    · exact absurd hname List.not_mem_nil
    · exact isName_of_mem_parts hname
  have hsingle : ¬['/', '/'] <+: (ofString s).resolve.toText.toList := not_doubleSlash rfl hnames
  unfold Uri.isBareHost
  split
  · next rest hrest => exact absurd (hrest ▸ List.prefix_append ['/', '/'] rest) hsingle
  · rfl

/-- A path that was resolved starts with one slash, so it has a uri. -/
theorem Path.exists_uri_resolve (s : String) :
    ∃ uri, Uri.ofPath (ofString s).resolve.toText = .ok uri := by
  cases huri : Uri.ofPath (ofString s).resolve.toText with
  | ok uri => exact ⟨uri, rfl⟩
  | error e => simpa [isBareHost_resolve s] using (Uri.ofPath_eq_error_iff.mp huri).1

end Datapack
