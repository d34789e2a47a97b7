import Datapack.Proofs.Ledger.Operations

/-! The exact effect of one report: named documents get the records of the report, other documents
in the folder are cleared, and everything else stays as it was. Each document is published at most
once, and all clearings come first. -/

namespace Datapack.Diagnostic

/-- The finding of a report with its file seen from the folder. -/
def Finding.within (folder : Path) (f : Finding) : Finding :=
  { f with file := (folder.child f.file).toText }

/-- What a report with some records does to a ledger, and what it publishes. -/
structure ReportEffect (openUris : List String) (folderUri : String) (records : List Record)
    (t t' : Ledger) (grouped : Ordered (List Record)) (published : List Publication) : Prop where
  /-- Documents come in the order in which they are named, each with all its records in order. -/
  grouped_eq : grouped = (Ordered.distinct (records.map (·.uri))).map fun u =>
    (u, records.filter (·.uri = u))
  named : ∀ u ∈ Ordered.keys grouped, t'.store.get u = records.filter (·.uri = u)
  cleared : ∀ u ∉ Ordered.keys grouped, Uri.isInside u folderUri → t'.store.get u = []
  untouched : ∀ u ∉ Ordered.keys grouped, ¬Uri.isInside u folderUri →
    t'.store.get u = t.store.get u
  stream_eq : t'.stream = t.stream
  /-- First the documents that have something to clear, then those that are named. -/
  published_eq : ∃ clearings : List String,
    (∀ u, u ∈ clearings ↔ Uri.isInside u folderUri ∧
      (u ∈ openUris ∨ u ∈ Ordered.keys t.store) ∧ u ∉ Ordered.keys grouped) ∧
    published = clearings.map (fun u => ⟨u, []⟩) ++ grouped.map (fun g => ⟨g.1, g.2⟩)
  once : (published.map (·.uri)).Nodup
  confined : ∀ p ∈ published, Uri.isInside p.uri folderUri ∨ p.uri ∈ Ordered.keys grouped

theorem Ledger.get_foldl_reportPublications (t : Ledger) (openUris : List String)
    (folderUri : String) (records : List Record) (u : String) :
    Store.get ((t.reportPublications openUris folderUri records).foldl Store.note t.store) u =
      if u ∈ records.map (·.uri) then records.filter (·.uri = u)
      else if Uri.isInside u folderUri then [] else t.store.get u := by
  rw [Store.get_foldl_note, latest?_reportPublications]
  by_cases hu : u ∈ records.map (·.uri)
  · rw [if_pos hu, if_pos hu, Option.getD_some]
  · rw [if_neg hu, if_neg hu]
    by_cases hclear : u ∈ t.cleared openUris folderUri records
    · rw [if_pos hclear, if_pos (mem_cleared.mp hclear).2.2, Option.getD_some]
    · rw [if_neg hclear, Option.getD_none]
      by_cases hinside : Uri.isInside u folderUri
      · -- A document that is not cleared though it could be carries nothing.
        have hstored : u ∉ Ordered.keys t.store := by
          intro h
          exact hclear (mem_cleared.mpr ⟨.inr h, hu, hinside⟩)
        rw [if_pos hinside, Store.get_eq_nil_of_not_mem hstored]
      · rw [if_neg hinside]

theorem Ledger.reportPlan_of_records {docs : Documents} {files : FileTree} {folder : Path}
    {report : Option Report} {folderUri : String} {openUris : List String} {records : List Record}
    (hfolder : Uri.ofPath folder.toText = .ok folderUri) (hopen : docs.openUris = .ok openUris)
    (hrecords : reportRecords docs files folder ((report.map (·.errors)).getD []) = .ok records)
    (t : Ledger) :
    ∃ c, t.reportPlan docs files folder report = .ok c ∧
      publications c.effects = t.reportPublications openUris folderUri records := by
  obtain ⟨c, hreport⟩ : ∃ c, t.reportPlan docs files folder report = .ok c := by
    simp [reportPlan, hrecords, hfolder, hopen, bind, Except.bind, pure, Except.pure]
  obtain ⟨records', folderUri', openUris', hrecords', hfolder', hopen', _, _, hpublished⟩ :=
    reportPlan_ok hreport
  obtain rfl := Except.ok.inj (hrecords.symm.trans hrecords')
  obtain rfl := Except.ok.inj (hfolder.symm.trans hfolder')
  obtain rfl := Except.ok.inj (hopen.symm.trans hopen')
  exact ⟨c, hreport, hpublished⟩

/-- A report that has records is taken: it shows for each document what it names, clears the rest of
the folder and leaves all else as it was. -/
theorem Ledger.perform_enterReport {docs : Documents} {files : FileTree} {folder : Path}
    {report : Option Report} {folderUri : String} {openUris : List String} {records : List Record}
    (hfolder : Uri.ofPath folder.toText = .ok folderUri) (hopen : docs.openUris = .ok openUris)
    (hrecords : reportRecords docs files folder ((report.map (·.errors)).getD []) = .ok records)
    (t : Ledger) :
    (t.perform (.enterReport docs files folder report)).result.isOk ∧
    ∀ u, (t.perform (.enterReport docs files folder report)).after.store.get u =
      if u ∈ records.map (·.uri) then records.filter (·.uri = u)
      else if Uri.isInside u folderUri then [] else t.store.get u := by
  obtain ⟨c, hreport, hpublished⟩ := reportPlan_of_records hfolder hopen hrecords t
  simp only [perform_of_ok (plan_report_of_ok hreport), Change.map, hpublished]
  exact ⟨rfl, t.get_foldl_reportPublications openUris folderUri records⟩

theorem Ledger.reportEffect (t : Ledger) (openUris : List String) (folderUri : String)
    (records : List Record) :
    ReportEffect openUris folderUri records t
      ⟨(t.reportPublications openUris folderUri records).foldl Store.note t.store, t.stream⟩
      (group records) (t.reportPublications openUris folderUri records) := by
  have hkeys (u : String) : u ∈ Ordered.keys (group records) ↔ u ∈ records.map (·.uri) := by
    rw [keys_group, Ordered.mem_distinct]
  refine ⟨group_eq records, ?_, ?_, ?_, rfl, ?_,
    t.nodup_reportPublications openUris folderUri records, ?_⟩
  · intro u hu
    rw [get_foldl_reportPublications, if_pos ((hkeys u).mp hu)]
  · intro u hu hinside
    rw [get_foldl_reportPublications, if_neg fun h => hu ((hkeys u).mpr h), if_pos hinside]
  · intro u hu hinside
    rw [get_foldl_reportPublications, if_neg fun h => hu ((hkeys u).mpr h), if_neg hinside]
  · refine ⟨t.cleared openUris folderUri records, ?_, ?_⟩
    · intro u
      rw [mem_cleared, hkeys]
      exact ⟨fun ⟨h, hn, hi⟩ => ⟨hi, h, hn⟩, fun ⟨hi, h, hn⟩ => ⟨h, hn, hi⟩⟩
    · rw [reportPublications, group_eq, List.map_map]
      rfl
  · intro p hp
    rcases List.mem_append.mp hp with hp | hp
    · obtain ⟨u, hu, rfl⟩ := List.mem_map.mp hp
      exact .inl (mem_cleared.mp hu).2.2
    · obtain ⟨u, hu, rfl⟩ := List.mem_map.mp hp
      exact .inr ((hkeys u).mpr ((Ordered.mem_distinct _).mp hu))

/-- If a report is applied, then documents that it names get their records in the order of the report,
other documents in the folder are cleared, and all others and the stream stay as they were. Published
are one empty list for each cleared document that was open or carried diagnostics, and then the group
of each document that is named. -/
theorem enterReport_effect {docs : Documents} {files : FileTree} {publisher : Publisher}
    {t t' : Ledger} {folder : Path} {report : Option Report} {effects : List Effect}
    {grouped : Ordered (List Record)}
    (h : (Ledger.enterReport docs files publisher folder report).run t =
      (t', effects, .ok grouped)) :
    ∃ records folderUri openUris,
      List.Forall₂ (fun f r => Ledger.recordOf docs files (f.within folder) = .ok r)
        ((report.map (·.errors)).getD []) records ∧
      Uri.ofPath folder.toText = .ok folderUri ∧ docs.openUris = .ok openUris ∧
      ReportEffect openUris folderUri records t t' grouped (publications effects) := by
  obtain ⟨records, folderUri, openUris, hrecords, huri, hopen, rfl, rfl, hpublished⟩ :=
    Ledger.run_enterReport_ok h
  refine ⟨records, folderUri, openUris, forall₂_of_mapM_ok hrecords, huri, hopen, ?_⟩
  rw [hpublished]
  exact t.reportEffect openUris folderUri records

/-- A ledger with a document inside `/ws`, which is streamed too, and one outside of it. -/
def mixedLedger : Ledger :=
  { store := [("file:///ws/a.dps", [⟨"file:///ws/a.dps", 0, 0, "old", .error, sourceName⟩]),
      ("file:///else/e.dps", [⟨"file:///else/e.dps", 1, 1, "kept", .error, sourceName⟩])]
    stream := [("file:///ws/a.dps", [⟨"file:///ws/a.dps", 0, 0, "old", .error, sourceName⟩])] }

/-- A report that names a document inside the folder twice and one outside of it. -/
def mixedReport : Report :=
  { errors := [⟨"b.dps", 3, 2, "first"⟩, ⟨"/other/c.dps", -1, 0, "end"⟩, ⟨"b.dps", 4, 0, "second"⟩]
    suggestions := [] }

/-- The report is applied while a third document of the folder is open. -/
def mixedOutcome : Ledger × List Effect × Except Fault (Ordered (List Record)) :=
  (Ledger.enterReport (.given [("file:///ws/d.dps", "")] []) {} .accepting ⟨.slash, ["ws"]⟩
    (some mixedReport)).run mixedLedger

theorem enterReport_effect_of_mixedReport :
    ∃ t' effects grouped, mixedOutcome = (t', effects, .ok grouped) ∧
      Ordered.keys grouped = ["file:///ws/b.dps", "file:///other/c.dps"] ∧
      t'.store.get "file:///ws/a.dps" = [] ∧
      t'.store.get "file:///else/e.dps" = mixedLedger.store.get "file:///else/e.dps" ∧
      t'.stream = mixedLedger.stream ∧ ((publications effects).map (·.uri)).Nodup := by
  obtain ⟨grouped, hkeys, hok⟩ : ∃ grouped,
      Ordered.keys grouped = ["file:///ws/b.dps", "file:///other/c.dps"] ∧
      mixedOutcome.2.2 = .ok grouped := by
    refine ⟨_, ?_, rfl⟩
    decide +kernel
  have hrun : mixedOutcome = (mixedOutcome.1, mixedOutcome.2.1, .ok grouped) := by rw [← hok]
  obtain ⟨records, folderUri, openUris, _, huri, _, heffect⟩ := enterReport_effect hrun
  have hfolder : folderUri = "file:///ws" := by
    have h : (Uri.ofPath (Path.toText ⟨.slash, ["ws"]⟩)).toOption = some "file:///ws" := by
      decide +kernel
    rw [huri] at h
    exact Option.some.inj h
  subst folderUri
  refine ⟨_, _, grouped, hrun, hkeys, ?_, ?_, heffect.stream_eq, heffect.once⟩
  · exact heffect.cleared _ (by rw [hkeys]; decide) (by decide +kernel)
  · exact heffect.untouched _ (by rw [hkeys]; decide) (by decide +kernel)

end Datapack.Diagnostic
