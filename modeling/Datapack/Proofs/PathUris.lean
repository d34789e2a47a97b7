import Datapack.Proofs.Text.Percent
import Datapack.Proofs.Uris
import Mathlib.Data.List.TakeWhile

/-! The uris of file paths: those with one slash in front that are on no drive. Such a uri is the
scheme, two slashes and the path with its escapes, and it names the path again. It is not the only
uri that does: a fragment behind it does not count. -/

namespace Datapack.Uri

open Text

/-- One slash in front, and no drive behind it. -/
structure IsFilePath (cs : List Char) : Prop where
  rooted : cs.head? = some '/'
  single : ¬['/', '/'] <+: cs
  no_drive : isDrivePath cs = false

/-! ### Making the uri -/

theorem lowerDrive_eq_self {cs : List Char} (h : isDrivePath cs = false) : lowerDrive cs = cs := by
  unfold lowerDrive
  split
  · next c rest =>
      have hletter : c.isAlpha = false := h
      simp [hletter]
  · rfl

theorem splitAuthority_eq {cs : List Char} (h : ¬['/', '/'] <+: cs) :
    splitAuthority cs = .ok ([], cs) := by
  unfold splitAuthority
  split
  · next rest => exact absurd (List.prefix_append ['/', '/'] rest) h
  · rfl

/-- The characters of the uri of a file path. -/
def fileUri (cs : List Char) : List Char := "file://".toList ++ percentEncode cs

theorem IsFilePath.ofPathChars_eq {cs : List Char} (h : IsFilePath cs) :
    ofPathChars cs = .ok (fileUri cs) := by
  have hquoted : quotePath (lowerDrive cs) = percentEncode cs := by
    rw [lowerDrive_eq_self h.no_drive, quotePath, if_neg (by simp [h.no_drive])]
  have hsingle : ¬['/', '/'].isPrefixOf (percentEncode cs) := by
    have hslash : isPlainInPath '/' := rfl
    have hslashes : percentEncode ['/'] ++ ['/'] <+: percentEncode cs ↔ ['/', '/'] <+: cs :=
      percentEncode_concat_prefix_iff hslash
    rw [percentEncode_singleton hslash] at hslashes
    rw [List.isPrefixOf_iff_prefix]
    exact fun hprefix => h.single (hslashes.mp hprefix)
  simp only [ofPathChars, splitAuthority_eq h.single, bind, Except.bind, h.rooted, if_true, hquoted,
    hsingle, pure, Except.pure]
  rfl

theorem IsFilePath.ofPath_eq {path : String} (h : IsFilePath path.toList) :
    ofPath path = .ok (String.ofList (fileUri path.toList)) := by
  rw [ofPath, h.ofPathChars_eq, Except.map]

/-! ### Reading it back -/

theorem IsFilePath.exists_cons {cs : List Char} (h : IsFilePath cs) : ∃ rest, cs = '/' :: rest := by
  obtain ⟨rest, hrest⟩ := List.head?_eq_some_iff.mp h.rooted
  exact ⟨rest, hrest⟩

theorem ne_of_isPathUriChar {c : Char} (h : isPathUriChar c) :
    c ≠ '\t' ∧ c ≠ '\r' ∧ c ≠ '\n' ∧ c ≠ '#' ∧ c ≠ '?' := by
  refine ⟨?_, ?_, ?_, ?_, ?_⟩ <;> rintro rfl <;> exact absurd h (by decide)

/-- Nothing in the uri of a file path ends its path, so only a fragment behind it does. -/
theorem takeWhile_percentEncode_append (cs : List Char) {fragment : List Char}
    (hfragment : fragment = [] ∨ fragment = ['#']) :
    ((percentEncode cs ++ fragment).takeWhile (· != '#')).takeWhile (· != '?') =
      percentEncode cs := by
  have hne (c : Char) (hc : c ∈ percentEncode cs) :=
    ne_of_isPathUriChar (isPathUriChar_of_mem_percentEncode hc)
  have hhash : ∀ c ∈ percentEncode cs, c != '#' := fun c hc => by simpa using (hne c hc).2.2.2.1
  have hquery : ∀ c ∈ percentEncode cs, c != '?' := fun c hc => by simpa using (hne c hc).2.2.2.2
  have hcut : (percentEncode cs ++ fragment).takeWhile (· != '#') = percentEncode cs := by
    rw [List.takeWhile_append_of_pos hhash]
    rcases hfragment with rfl | rfl <;> simp
  rw [hcut, List.takeWhile_eq_self_iff.mpr hquery]

/-- The parts of the uri of a file path, also with an empty fragment behind it. -/
theorem IsFilePath.split_fileUri {cs : List Char} (h : IsFilePath cs) {fragment : List Char}
    (hfragment : fragment = [] ∨ fragment = ['#']) :
    split (fileUri cs ++ fragment) = .ok ⟨"file".toList, [], percentEncode cs⟩ := by
  have hkept : (fileUri cs ++ fragment).filter (fun c => c != '\t' && c != '\r' && c != '\n') =
      fileUri cs ++ fragment := by
    rw [List.filter_eq_self]
    intro c hc
    rcases List.mem_append.mp hc with hc | hc
    · have hne := ne_of_isPathUriChar (isPathUriChar_of_mem_ofPathChars h.ofPathChars_eq hc)
      simp [hne.1, hne.2.1, hne.2.2.1]
    · rcases hfragment with rfl | rfl
      · cases hc
      · rw [List.mem_singleton.mp hc]
        rfl
  have hpath := takeWhile_percentEncode_append cs hfragment
  obtain ⟨rest, rfl⟩ := h.exists_cons
  have huri : fileUri ('/' :: rest) ++ fragment =
      "file:".toList ++ '/' :: '/' :: (percentEncode ('/' :: rest) ++ fragment) := rfl
  have hscheme (more : List Char) :
      splitScheme ("file:".toList ++ more) = ("file".toList, more) := rfl
  have hblank (more : List Char) :
      ("file:".toList ++ more).dropWhile (·.toNat ≤ 0x20) = "file:".toList ++ more := rfl
  rw [huri] at hkept ⊢
  simp only [split, hblank, hkept, hscheme]
  exact congrArg (fun path => (Except.ok ⟨"file".toList, [], path⟩ : Except Fault Parts)) hpath

/-- The path of the uri of a file path. -/
theorem IsFilePath.toPath_fileUri {path : String} (h : IsFilePath path.toList)
    {fragment : List Char} (hfragment : fragment = [] ∨ fragment = ['#']) :
    toPath (String.ofList (fileUri path.toList ++ fragment)) = .ok (some path) := by
  have hscheme : percentDecode "file".toList = "file".toList :=
    percentDecode_percentEncode "file".toList
  rw [toPath, toPathChars, String.toList_ofList, h.split_fileUri hfragment]
  simp only [Except.map, Parts.toPath, hscheme, percentDecode_nil, percentDecode_percentEncode,
    h.no_drive]
  simp

/-- The uri of a file path names the path again. -/
theorem IsFilePath.toPath_ofPath {path uri : String} (h : IsFilePath path.toList)
    (huri : ofPath path = .ok uri) : toPath uri = .ok (some path) := by
  obtain rfl := Except.ok.inj (h.ofPath_eq.symm.trans huri)
  have hpath := h.toPath_fileUri (.inl rfl)
  rwa [List.append_nil] at hpath

theorem IsFilePath.ofPath_injective {path other uri : String} (h : IsFilePath path.toList)
    (hother : IsFilePath other.toList) (huri : ofPath path = .ok uri)
    (hsame : ofPath other = .ok uri) : other = path := by
  have hnamed := (hother.toPath_ofPath hsame).symm.trans (h.toPath_ofPath huri)
  exact Option.some.inj (Except.ok.inj hnamed)

end Datapack.Uri
