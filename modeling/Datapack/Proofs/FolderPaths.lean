import Datapack.Proofs.Ledger.Folders
import Datapack.Proofs.PathUris

/-! Folders as paths. Escapes keep slashes and nothing else gives one, so the uri of a path starts
with that of a folder and a slash exactly if the path does, and the path does exactly if its names
start with those of the folder and go on. -/

namespace Datapack

open Text

/-! ### Names between slashes -/

theorem Text.intercalate_append {sep : List Char} {xs ys : List (List Char)} (hxs : xs ≠ [])
    (hys : ys ≠ []) :
    sep.intercalate (xs ++ ys) = sep.intercalate xs ++ sep ++ sep.intercalate ys := by
  induction xs with
  | nil => exact absurd rfl hxs
  | cons x xs ih =>
      cases xs with
      | nil => rw [List.singleton_append, List.intercalate_cons_of_ne_nil hys,
          List.intercalate_singleton]
      | cons x' xs =>
          rw [List.cons_append, List.cons_append, List.intercalate_cons_cons, ← List.cons_append,
            ih (List.cons_ne_nil x' xs), List.intercalate_cons_cons]
          simp only [List.append_assoc]

/-- Joined names start with other joined names and a mark exactly if the names start with the other
ones and go on, as long as no name holds the mark. -/
theorem Text.intercalate_concat_prefix_iff {mark : Char} {xs ys : List (List Char)}
    (hxs : ∀ x ∈ xs, mark ∉ x) (hys : ∀ y ∈ ys, mark ∉ y) (hne : xs ≠ []) :
    [mark].intercalate xs ++ [mark] <+: [mark].intercalate ys ↔ xs <+: ys ∧ xs ≠ ys := by
  constructor
  · rintro ⟨tail, htail⟩
    have hys' : ys ≠ [] := by
      rintro rfl
      simp at htail
    have hpieces := congrArg (List.splitOn mark) htail
    rw [List.append_assoc, List.singleton_append, List.splitOn_append_cons_self,
      List.splitOn_intercalate mark hxs hne, List.splitOn_intercalate mark hys hys'] at hpieces
    refine ⟨⟨_, hpieces⟩, fun heq => List.splitOn_ne_nil mark tail ?_⟩
    rw [← heq] at hpieces
    exact List.append_right_eq_self.mp hpieces
  · rintro ⟨⟨more, rfl⟩, hlonger⟩
    have hmore : more ≠ [] := by
      rintro rfl
      simp at hlonger
    rw [Text.intercalate_append hne hmore]
    exact List.prefix_append _ _

/-! ### Paths in normal form -/

namespace Path

/-- A path in normal form with one slash in front that is on no drive. -/
structure IsPlain (p : Path) : Prop where
  normal : ofString p.toText = p
  root : p.root = .slash
  no_drive : Uri.isDrivePath p.toText.toList = false

variable {p : Path}

namespace IsPlain

theorem isName (h : p.IsPlain) {name : String} (hname : name ∈ p.parts) : IsName name := by
  rw [← h.normal] at hname
  exact isName_of_mem_parts hname

theorem name_of_mem (h : p.IsPlain) {cs : List Char} (hcs : cs ∈ p.parts.map String.toList) :
    cs ≠ [] ∧ '/' ∉ cs := by
  obtain ⟨name, hname, rfl⟩ := List.mem_map.mp hcs
  exact ⟨(h.isName hname).ne_nil, (h.isName hname).no_slash⟩

theorem isFilePath (h : p.IsPlain) : Uri.IsFilePath p.toText.toList where
  rooted := by rw [toList_toText h.root, List.head?_cons]
  single := not_doubleSlash h.root fun _ => h.isName
  no_drive := h.no_drive

/-- Only the root directory ends in a slash. -/
theorem exists_concat (h : p.IsPlain) (hne : p.parts ≠ []) :
    ∃ front c, p.toText.toList = front ++ [c] ∧ c ≠ '/' := by
  have hnames (cs : List Char) (hcs : cs ∈ p.parts.map String.toList) := h.name_of_mem hcs
  have hne' : p.parts.map String.toList ≠ [] := by simpa using hne
  rw [toList_toText h.root]
  generalize p.parts.map String.toList = names at hnames hne'
  rcases List.eq_nil_or_concat names with rfl | ⟨init, last, rfl⟩
  · exact absurd rfl hne'
  obtain ⟨hlast, hslash⟩ := hnames last (by simp)
  rcases List.eq_nil_or_concat last with rfl | ⟨cs, c, rfl⟩
  · exact absurd rfl hlast
  have hc : c ≠ '/' := by
    rintro rfl
    exact hslash (by simp)
  rw [List.concat_eq_append, List.concat_eq_append]
  cases init with
  | nil => exact ⟨'/' :: cs, c, by simp, hc⟩
  | cons name init =>
      rw [Text.intercalate_append (by simp) (by simp), List.intercalate_singleton]
      exact ⟨'/' :: (['/'].intercalate (name :: init) ++ ['/'] ++ cs), c, by simp, hc⟩

end IsPlain

end Path

namespace Uri

theorem hexDigitUpper_ne_slash {n : Nat} (h : n < 16) : hexDigitUpper n ≠ '/' := by
  intro hslash
  have hvalue := hexValue?_hexDigitUpper h
  rw [hslash] at hvalue
  cases hvalue

/-- Escapes hold no slash. -/
theorem eq_of_slash_mem_percentEncode {c : Char} (h : '/' ∈ percentEncode [c]) : c = '/' := by
  rw [percentEncode, List.flatMap_singleton] at h
  split at h
  · exact (List.mem_singleton.mp h).symm
  · obtain ⟨b, _, hb⟩ := List.mem_flatMap.mp h
    have hlt : b.toNat < 256 := b.toNat_lt
    simp only [percentByte, List.mem_cons, List.not_mem_nil, or_false] at hb
    rcases hb with hb | hb | hb
    · exact absurd hb (by decide)
    · exact absurd hb.symm (hexDigitUpper_ne_slash (by omega))
    · exact absurd hb.symm (hexDigitUpper_ne_slash (by omega))

theorem percentEncode_singleton_ne_nil (c : Char) : percentEncode [c] ≠ [] := by
  intro hnil
  have hread := percentDecode_percentEncode [c]
  rw [hnil, percentDecode_nil] at hread
  cases hread

theorem fileUri_append (cs ds : List Char) :
    fileUri (cs ++ ds) = fileUri cs ++ percentEncode ds := by
  unfold fileUri
  rw [percentEncode_append]
  exact (List.append_assoc _ _ _).symm

/-- A path that does not end in a slash has a uri that does not end in one either. -/
theorem folderPrefix_fileUri (front : List Char) {c : Char} (hc : c ≠ '/') :
    folderPrefix (String.ofList (fileUri (front ++ [c]))) = fileUri (front ++ [c]) ++ ['/'] := by
  obtain hnil | ⟨escaped, d, hcut⟩ := List.eq_nil_or_concat (percentEncode [c])
  · exact absurd hnil (percentEncode_singleton_ne_nil c)
  rw [List.concat_eq_append] at hcut
  have hd : d ≠ '/' := by
    rintro rfl
    exact hc (eq_of_slash_mem_percentEncode (by simp [hcut]))
  have huri : fileUri (front ++ [c]) = fileUri front ++ escaped ++ [d] := by
    rw [fileUri_append, hcut, List.append_assoc]
  have hkept : dropEndWhile (· == '/') (fileUri front ++ escaped ++ [d]) =
      fileUri front ++ escaped ++ [d] := by
    simp [dropEndWhile, hd]
  rw [folderPrefix, String.toList_ofList, huri, hkept]

/-- The uris of two paths tell whether one path starts with the other one and a slash. -/
theorem isInside_fileUri_iff {cs front : List Char} {c : Char} (hc : c ≠ '/') :
    isInside (String.ofList (fileUri cs)) (String.ofList (fileUri (front ++ [c]))) ↔
      front ++ [c] ++ ['/'] <+: cs := by
  have hslash : isPlainInPath '/' := rfl
  have hfolder : fileUri (front ++ [c]) ++ ['/'] =
      "file://".toList ++ (percentEncode (front ++ [c]) ++ ['/']) := List.append_assoc _ _ _
  rw [isInside_iff, folderPrefix_fileUri front hc, String.toList_ofList, hfolder,
    ← percentEncode_concat_prefix_iff hslash]
  exact List.prefix_append_right_inj _

theorem folderPrefix_root : folderPrefix (String.ofList (fileUri ['/'])) = "file:/".toList := by
  decide +kernel

/-- All slashes at the end of the root's uri are dropped, also those of the scheme. -/
theorem isInside_root (cs : List Char) :
    isInside (String.ofList (fileUri cs)) (String.ofList (fileUri ['/'])) := by
  have hmark : "file:/".toList <+: "file://".toList := by decide
  rw [isInside_iff, String.toList_ofList, folderPrefix_root]
  exact hmark.trans (List.prefix_append _ _)

end Uri

/-- A path is told to be in a folder by their uris exactly if the names of the folder are a proper
prefix of its names, whatever characters they hold, and every path is in the root directory. -/
theorem isInside_iff_parts {p f : Path} (hp : p.IsPlain) (hf : f.IsPlain) :
    ∃ uri folder, Uri.ofPath p.toText = .ok uri ∧ Uri.ofPath f.toText = .ok folder ∧
      (f ≠ Path.rootDirectory →
        (Uri.isInside uri folder ↔ f.parts <+: p.parts ∧ f.parts ≠ p.parts)) ∧
      (f = Path.rootDirectory → Uri.isInside uri folder) := by
  refine ⟨_, _, hp.isFilePath.ofPath_eq, hf.isFilePath.ofPath_eq, ?_, ?_⟩
  · intro hroot
    have hne : f.parts ≠ [] := by
      intro hnil
      exact hroot (by rw [Path.rootDirectory, ← hf.root, ← hnil])
    obtain ⟨front, c, htext, hc⟩ := hf.exists_concat hne
    rw [htext, Uri.isInside_fileUri_iff hc, ← htext, Path.toList_toText hf.root,
      Path.toList_toText hp.root, List.cons_append, List.cons_prefix_cons, and_iff_right rfl,
      Text.intercalate_concat_prefix_iff (fun name hname => (hf.name_of_mem hname).2)
        (fun name hname => (hp.name_of_mem hname).2) (by simpa using hne)]
    have hinjective : Function.Injective String.toList := fun _ _ => String.toList_injective
    rw [List.prefix_map_iff_of_injective hinjective, Ne, Ne,
      List.map_inj_right fun _ _ => String.toList_injective]
  · intro hroot
    have htext : f.toText.toList = ['/'] := by rw [hroot, Path.toList_toText rfl]; rfl
    rw [htext]
    exact Uri.isInside_root p.toText.toList

/-- The folder `/ws/pack`. -/
def Path.packFolder : Path := ⟨.slash, ["ws", "pack"]⟩

/-- A file of the pack whose name holds characters that are escaped. -/
def Path.packFile : Path := ⟨.slash, ["ws", "pack", "é?#.dps"]⟩

/-- A file in a folder whose name only starts like that of the pack. -/
def Path.pack2File : Path := ⟨.slash, ["ws", "pack2", "a"]⟩

/-- The file of the pack is in its folder, the file beside it is not, and the root holds both. -/
theorem isInside_packFolder :
    (Path.packFolder.IsPlain ∧ Path.packFile.IsPlain ∧ Path.pack2File.IsPlain ∧
      Path.rootDirectory.IsPlain) ∧
    (∃ uri folder, Uri.ofPath Path.packFile.toText = .ok uri ∧
      Uri.ofPath Path.packFolder.toText = .ok folder ∧ Uri.isInside uri folder) ∧
    (∃ uri folder, Uri.ofPath Path.pack2File.toText = .ok uri ∧
      Uri.ofPath Path.packFolder.toText = .ok folder ∧ ¬Uri.isInside uri folder) ∧
    (∃ uri folder, Uri.ofPath Path.pack2File.toText = .ok uri ∧
      Uri.ofPath Path.rootDirectory.toText = .ok folder ∧ Uri.isInside uri folder) := by
  have hfolder : Path.packFolder.IsPlain := ⟨by decide +kernel, rfl, by decide +kernel⟩
  have hfile : Path.packFile.IsPlain := ⟨by decide +kernel, rfl, by decide +kernel⟩
  have hbeside : Path.pack2File.IsPlain := ⟨by decide +kernel, rfl, by decide +kernel⟩
  have hroot : Path.rootDirectory.IsPlain := ⟨by decide +kernel, rfl, by decide +kernel⟩
  obtain ⟨uri, folder, huri, hfolderUri, hinside, _⟩ := isInside_iff_parts hfile hfolder
  obtain ⟨other, _, hother, hsame, houtside, _⟩ := isInside_iff_parts hbeside hfolder
  obtain ⟨_, top, hagain, htop, _, hall⟩ := isInside_iff_parts hbeside hroot
  refine ⟨⟨hfolder, hfile, hbeside, hroot⟩, ⟨uri, folder, huri, hfolderUri, ?_⟩,
    ⟨other, _, hother, hsame, ?_⟩, ⟨_, top, hagain, htop, hall rfl⟩⟩
  · exact (hinside (by decide)).mpr (by decide)
  · rw [houtside (by decide)]
    decide

end Datapack
