import Datapack.Proofs.Ledger.Folders

/-! What is left of reports that are entered one after the other. A report clears what earlier ones
have named in its folder, so of all that was named just that stands which lies in the folder of no
later report. -/

namespace Datapack

namespace Diagnostic

/-! ### Filed stores -/

/-- Every document in a store carries diagnostics, and each of them is of a file. -/
def Store.Filed (s : Store) : Prop :=
  ∀ p ∈ s, p.2 ≠ [] ∧ ∀ r ∈ p.2, ∃ path, Uri.ofPath path = .ok r.uri

namespace Store.Filed

variable {s : Store}

theorem note (h : s.Filed) {p : Publication}
    (hp : ∀ r ∈ p.records, ∃ path, Uri.ofPath path = .ok r.uri) : (s.note p).Filed := by
  intro q hq
  unfold Store.note at hq
  split at hq
  · exact h q (List.mem_of_mem_filter hq)
  · next hne =>
      rcases Ordered.eq_or_mem_of_mem_put hq with rfl | hq
      · exact ⟨hne, hp⟩
      · exact h q hq

theorem foldl_note (h : s.Filed) {ps : List Publication}
    (hps : ∀ p ∈ ps, ∀ r ∈ p.records, ∃ path, Uri.ofPath path = .ok r.uri) :
    Filed (ps.foldl Store.note s) := by
  induction ps generalizing s with
  | nil => exact h
  | cons p ps ih =>
      rw [List.forall_mem_cons] at hps
      exact ih (h.note hps.1) hps.2

/-- Something stands for a document exactly if the document is in the store. -/
theorem get_ne_nil_iff (h : s.Filed) {u : String} : s.get u ≠ [] ↔ u ∈ Ordered.keys s := by
  refine ⟨fun hne => ?_, fun hu => ?_⟩
  · by_contra hu
    exact hne (Store.get_eq_nil_of_not_mem hu)
  · obtain ⟨records, hrecords⟩ := Ordered.mem_keys_iff_lookup.mp hu
    rw [Store.get, hrecords, Option.getD_some]
    obtain ⟨before, after, rfl, _⟩ := List.lookup_eq_some_iff.mp hrecords
    exact (h (u, records) (by simp)).1

end Store.Filed

/-! ### Reports one after the other -/

theorem exists_path_of_mem_reportedUris {folder : Path} {report : Option Report} {u : String}
    (h : u ∈ reportedUris folder report) : ∃ path, Uri.ofPath path = .ok u := by
  obtain ⟨f, _, hfile⟩ := List.mem_filterMap.mp h
  refine ⟨(f.within folder).file, ?_⟩
  cases huri : Uri.ofPath (f.within folder).file with
  | error e => simp [huri, Except.toOption] at hfile
  | ok uri => rw [huri, Except.toOption, Option.some.injEq] at hfile; rw [hfile]

/-- A report that can be entered: the folder has a uri, it is known which documents are open, and
all entries can be placed. -/
def Enterable (docs : Documents) (files : FileTree) (p : Path × Option Report) : Prop :=
  (∃ uri, Uri.ofPath p.1.toText = .ok uri) ∧ (∃ openUris, docs.openUris = .ok openUris) ∧
    ∃ records, Ledger.reportRecords docs files p.1 ((p.2.map (·.errors)).getD []) = .ok records

theorem enterable_iff {docs : Documents} {files : FileTree} {p : Path × Option Report}
    (t : Ledger) : Enterable docs files p ↔ ∃ c, t.reportPlan docs files p.1 p.2 = .ok c := by
  constructor
  · rintro ⟨⟨uri, huri⟩, ⟨openUris, hopen⟩, records, hrecords⟩
    obtain ⟨c, hc, _⟩ := t.reportPlan_of_records huri hopen hrecords
    exact ⟨c, hc⟩
  · rintro ⟨c, hc⟩
    obtain ⟨records, uri, openUris, hrecords, huri, hopen, _⟩ := Ledger.reportPlan_ok hc
    exact ⟨⟨uri, huri⟩, ⟨openUris, hopen⟩, records, hrecords⟩

namespace Reports

/-- The reports as operations on a ledger. -/
def operations (docs : Documents) (files : FileTree) (reports : Reports) : List Operation :=
  reports.map fun p => .enterReport docs files p.1 p.2

/-- Some report has an error. -/
def HaveErrors (reports : Reports) : Prop := ∃ p ∈ reports, (p.2.map (·.errors)).getD [] ≠ []

/-- A report names the document, and the folder of no later one holds it. -/
def Keep (reports : Reports) (u : String) : Prop :=
  ∃ before p after, reports = before ++ p :: after ∧ u ∈ reportedUris p.1 p.2 ∧
    ∀ q ∈ after, inFolder u q.1 = false

theorem haveErrors_of_mem {reports : Reports} {p : Path × Option Report} (hp : p ∈ reports)
    {u : String} (hu : u ∈ reportedUris p.1 p.2) : reports.HaveErrors := by
  obtain ⟨f, hf, _⟩ := List.mem_filterMap.mp hu
  exact ⟨p, hp, List.ne_nil_of_mem hf⟩

theorem Keep.haveErrors {reports : Reports} {u : String} (h : reports.Keep u) :
    reports.HaveErrors := by
  obtain ⟨before, p, after, rfl, hnamed, _⟩ := h
  exact haveErrors_of_mem (by simp) hnamed

theorem not_keep_nil {u : String} : ¬Keep [] u := by
  rintro ⟨before, p, after, hnil, _⟩
  simp at hnil

theorem keep_concat {reports : Reports} {p : Path × Option Report} {u : String} :
    Keep (reports ++ [p]) u ↔
      u ∈ reportedUris p.1 p.2 ∨ inFolder u p.1 = false ∧ reports.Keep u := by
  constructor
  · rintro ⟨before, q, after, hsplit, hnamed, hlater⟩
    rcases List.eq_nil_or_concat after with rfl | ⟨after, last, rfl⟩
    · obtain ⟨_, hlast⟩ := List.append_inj' hsplit rfl
      exact .inl (List.singleton_inj.mp hlast ▸ hnamed)
    · rw [List.concat_eq_append, ← List.cons_append, ← List.append_assoc] at hsplit
      obtain ⟨hreports, hlast⟩ := List.append_inj' hsplit rfl
      obtain rfl := List.singleton_inj.mp hlast
      refine .inr ⟨hlater p (by simp), before, q, after, hreports, hnamed, ?_⟩
      exact fun q' hq' => hlater q' (by simp [hq'])
  · rintro (hnamed | ⟨hnot, before, q, after, rfl, hnamed, hlater⟩)
    · exact ⟨reports, p, [], rfl, hnamed, by simp⟩
    · refine ⟨before, q, after ++ [p], by simp, hnamed, ?_⟩
      intro q' hq'
      rcases List.mem_append.mp hq' with hq' | hq'
      · exact hlater q' hq'
      · exact List.mem_singleton.mp hq' ▸ hnot

end Reports

namespace Ledger

variable {docs : Documents} {files : FileTree} {p : Path × Option Report} {reports : Reports}

/-- After a report just that stands which it names, and what stood before outside of its folder. -/
theorem stands_perform_enterReport (hp : Enterable docs files p) (t : Ledger) (u : String) :
    (t.perform (.enterReport docs files p.1 p.2)).after.store.get u ≠ [] ↔
      u ∈ reportedUris p.1 p.2 ∨ inFolder u p.1 = false ∧ t.store.get u ≠ [] := by
  obtain ⟨⟨folderUri, hfolder⟩, ⟨openUris, hopen⟩, records, hrecords⟩ := hp
  have huris := uris_of_reportRecords hrecords
  have hinside : inFolder u p.1 = Uri.isInside u folderUri := by
    simp [inFolder, hfolder, Except.toOption]
  rw [(perform_enterReport hfolder hopen hrecords t).2, huris, hinside]
  by_cases hu : u ∈ reportedUris p.1 p.2
  · have hne : records.filter (·.uri = u) ≠ [] := by
      obtain ⟨r, hr, hru⟩ := List.mem_map.mp (huris ▸ hu)
      exact List.ne_nil_of_mem (List.mem_filter.mpr ⟨hr, by simpa using hru⟩)
    simp [hu, hne]
  · cases Uri.isInside u folderUri <;> simp [hu]

theorem filed_perform_enterReport (hp : Enterable docs files p) {t : Ledger} (h : t.store.Filed) :
    (t.perform (.enterReport docs files p.1 p.2)).after.store.Filed := by
  obtain ⟨⟨folderUri, hfolder⟩, ⟨openUris, hopen⟩, records, hrecords⟩ := hp
  obtain ⟨c, hreport, hpublished⟩ := reportPlan_of_records hfolder hopen hrecords t
  simp only [perform_of_ok (plan_report_of_ok hreport), Change.map, hpublished]
  refine h.foldl_note ?_
  intro q hq r hr
  rcases List.mem_append.mp hq with hq | hq
  · obtain ⟨v, _, rfl⟩ := List.mem_map.mp hq
    exact absurd hr List.not_mem_nil
  · obtain ⟨v, _, rfl⟩ := List.mem_map.mp hq
    have hnamed : r.uri ∈ reportedUris p.1 p.2 := by
      rw [← uris_of_reportRecords hrecords]
      exact List.mem_map_of_mem (List.mem_of_mem_filter hr)
    exact exists_path_of_mem_reportedUris hnamed

/-- After reports just that stands which some report names and no later one clears. -/
theorem stands_run_operations (h : ∀ p ∈ reports, Enterable docs files p) (u : String) :
    (Ledger.run {} (reports.operations docs files)).store.get u ≠ [] ↔ reports.Keep u := by
  induction reports using List.reverseRecOn with
  | nil => exact ⟨fun hne => absurd rfl hne, fun hkeep => absurd hkeep Reports.not_keep_nil⟩
  | append_singleton reports p ih =>
      rw [List.forall_mem_append, List.forall_mem_singleton] at h
      rw [Reports.operations, List.map_append, List.map_singleton, run_concat,
        stands_perform_enterReport h.2, Reports.keep_concat, ← ih h.1]
      rfl

theorem filed_run_operations (h : ∀ p ∈ reports, Enterable docs files p) {t : Ledger}
    (hfiled : t.store.Filed) : (t.run (reports.operations docs files)).store.Filed := by
  induction reports generalizing t with
  | nil => exact hfiled
  | cons p reports ih =>
      rw [List.forall_mem_cons] at h
      exact ih h.2 (filed_perform_enterReport h.1 hfiled)

end Ledger

end Diagnostic

end Datapack
