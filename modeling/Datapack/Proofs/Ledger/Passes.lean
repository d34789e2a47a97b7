import Datapack.Proofs.Ledger.Reports

/-! Whole passes. A pass enters one report for each of its folders. What stands after it for a
document in one of the folders is named by a report of the pass. A document outside of all of them
is never cleared: what stands for it may come from any pass before. -/

namespace Datapack.Diagnostic

/-- The reports of a pass, each with its folder. -/
abbrev Reports := List (Path × Option Report)

/-- The documents that a report of a folder names. -/
def reportedUris (folder : Path) (report : Option Report) : List String :=
  ((report.map (·.errors)).getD []).filterMap fun f =>
    (Uri.ofPath (f.within folder).file).toOption

/-- The documents that the reports of a pass name. -/
def Reports.uris (pass : Reports) : List String := pass.flatMap fun p => reportedUris p.1 p.2

/-- Whether a document lies in a folder. -/
def inFolder (u : String) (folder : Path) : Bool :=
  ((Uri.ofPath folder.toText).toOption.map (Uri.isInside u)).getD false

theorem Reports.uris_concat (pass : Reports) (folder : Path) (report : Option Report) :
    Reports.uris (pass ++ [(folder, report)]) = pass.uris ++ reportedUris folder report := by
  simp [uris]

@[simp] theorem reportedUris_none (folder : Path) : reportedUris folder none = [] := rfl

theorem uri_of_recordOf {docs : Documents} {files : FileTree} {f : Finding} {r : Record}
    (h : Ledger.recordOf docs files f = .ok r) : Uri.ofPath f.file = .ok r.uri := by
  unfold Ledger.recordOf at h
  cases huri : Uri.ofPath f.file with
  | error e => simp [huri, bind, Except.bind] at h
  | ok uri =>
      simp only [huri, bind, Except.bind] at h
      split at h
      · cases htext : docs.text files uri with
        | error e => simp [htext] at h
        | ok text =>
            simp only [htext] at h
            cases h
            rfl
      · cases h
        rfl

/-- The documents of the records are those that the report names, whatever their text. -/
theorem uris_of_reportRecords {docs : Documents} {files : FileTree} {folder : Path}
    {report : Option Report} {records : List Record}
    (h : Ledger.reportRecords docs files folder ((report.map (·.errors)).getD []) = .ok records) :
    records.map (·.uri) = reportedUris folder report := by
  have hrecords := forall₂_of_mapM_ok h
  rw [reportedUris]
  clear h
  generalize (report.map (·.errors)).getD [] = errors at hrecords ⊢
  induction hrecords with
  | nil => rfl
  | cons hr _ ih =>
      have huri := uri_of_recordOf hr
      rw [List.map_cons, List.filterMap_cons, ih]
      simp [Finding.within, huri, Except.toOption]

/-- What stands while a pass over folders is under way, after earlier passes over the same folders:
the reports of the `finished` folders have been entered, and `current` are the reports so far. -/
structure Underway (folders finished : List Path) (earlier : List Reports) (current : Reports)
    (store : Store) : Prop where
  outside : ∀ u, (∀ f ∈ folders, inFolder u f = false) →
    (store.get u ≠ [] ↔ (∃ pass ∈ earlier, u ∈ pass.uris) ∨ u ∈ current.uris)
  inside : ∀ u, ∀ f ∈ finished, inFolder u f → store.get u ≠ [] → u ∈ current.uris

namespace Underway

variable {folders finished : List Path} {earlier : List Reports} {current : Reports} {store : Store}

theorem start (h : ∀ u, store.get u = []) : Underway folders [] [] [] store := by
  refine ⟨?_, ?_⟩
  · intro u _
    simp [h u, Reports.uris]
  · intro u f hf
    exact absurd hf List.not_mem_nil

/-- Only what the reports name matters. -/
theorem congr {current' : Reports} (h : Underway folders finished earlier current store)
    (huris : current'.uris = current.uris) : Underway folders finished earlier current' store :=
  ⟨huris ▸ h.outside, huris ▸ h.inside⟩

/-- The report of a folder clears what the reports so far have not named in it. -/
theorem enterReport {docs : Documents} {files : FileTree} {t t' : Ledger} {folder : Path}
    {report : Option Report} {publisher : Publisher} {effects : List Effect}
    {grouped : Ordered (List Record)}
    (h : Underway folders finished earlier current t.store) (hfolder : folder ∈ folders)
    (hreport : (Ledger.enterReport docs files publisher folder report).run t =
      (t', effects, .ok grouped)) :
    Underway folders (finished ++ [folder]) earlier (current ++ [(folder, report)]) t'.store := by
  obtain ⟨records, folderUri, openUris, hrecords, huri, _, rfl, _, _⟩ :=
    Ledger.run_enterReport_ok hreport
  have huris := uris_of_reportRecords hrecords
  have hinside (u : String) : inFolder u folder = Uri.isInside u folderUri := by
    simp [inFolder, huri, Except.toOption]
  have hstore (u : String) := t.get_foldl_reportPublications openUris folderUri records u
  simp only [huris, ← hinside] at hstore ⊢
  have hnamed {u : String} (hu : u ∈ reportedUris folder report) :
      records.filter (·.uri = u) ≠ [] := by
    rw [← huris] at hu
    obtain ⟨r, hr, rfl⟩ := List.mem_map.mp hu
    exact List.ne_nil_of_mem (List.mem_filter.mpr ⟨hr, by simp⟩)
  refine ⟨?_, ?_⟩
  · intro u hu
    rw [hstore, Reports.uris_concat, List.mem_append, ← or_assoc, ← h.outside u hu]
    by_cases hreported : u ∈ reportedUris folder report
    · simp [hreported, hnamed hreported]
    · simp [hreported, hu folder hfolder]
  · intro u f hf hin hne
    rw [Reports.uris_concat, List.mem_append]
    by_contra hnot
    obtain ⟨hcurrent, hreported⟩ := not_or.mp hnot
    rw [hstore, if_neg hreported] at hne
    by_cases hcleared : inFolder u folder
    · simp [hcleared] at hne
    · rw [if_neg hcleared] at hne
      rcases List.mem_append.mp hf with hf | hf
      · exact hcurrent (h.inside u f hf hin hne)
      · rw [List.mem_singleton.mp hf] at hin
        exact hcleared hin

end Underway

/-- What stands between passes over folders. -/
structure Settled (folders : List Path) (passes : List Reports) (store : Store) : Prop where
  next : Underway folders [] passes [] store
  last : ∀ earlier pass, passes = earlier ++ [pass] → Underway folders folders earlier pass store

theorem Settled.start {folders : List Path} {store : Store} (h : ∀ u, store.get u = []) :
    Settled folders [] store :=
  ⟨.start h, by simp⟩

/-- A pass has ended when the report of its last folder has been entered. -/
theorem Underway.settled {folders : List Path} {earlier : List Reports} {pass : Reports}
    {store : Store} (h : Underway folders folders earlier pass store) :
    Settled folders (earlier ++ [pass]) store := by
  refine ⟨⟨?_, ?_⟩, ?_⟩
  · intro u hu
    rw [h.outside u hu]
    simp [Reports.uris, or_and_right, exists_or]
  · intro u f hf
    exact absurd hf List.not_mem_nil
  · intro earlier' pass' heq
    obtain ⟨rfl, hpass⟩ := List.append_inj' heq rfl
    exact List.singleton_inj.mp hpass ▸ h

/-- After a whole pass, only documents that its reports name stand, with one exception: what an
earlier pass named outside of all folders. -/
theorem Settled.fresh_iff {folders : List Path} {earlier : List Reports} {pass : Reports}
    {store : Store} (h : Settled folders (earlier ++ [pass]) store) (u : String) :
    (store.get u ≠ [] → u ∈ pass.uris) ↔
      (∃ f ∈ folders, inFolder u f) ∨ u ∈ pass.uris ∨ ∀ p ∈ earlier, u ∉ p.uris := by
  have hlast := h.last earlier pass rfl
  by_cases hin : ∃ f ∈ folders, inFolder u f
  · obtain ⟨f, hf, hu⟩ := hin
    exact iff_of_true (hlast.inside u f hf hu) (.inl ⟨f, hf, hu⟩)
  · have hout : ∀ f ∈ folders, inFolder u f = false := by
      intro f hf
      rw [← Bool.not_eq_true]
      exact fun hu => hin ⟨f, hf, hu⟩
    rw [hlast.outside u hout, or_iff_right hin]
    constructor
    · intro hfresh
      by_cases hpass : u ∈ pass.uris
      · exact .inl hpass
      · exact .inr fun p hp hu => hpass (hfresh (.inl ⟨p, hp, hu⟩))
    · rintro (hpass | hnone) hstands
      · exact hpass
      · exact hstands.resolve_left fun ⟨p, hp, hu⟩ => hnone p hp hu

end Datapack.Diagnostic
