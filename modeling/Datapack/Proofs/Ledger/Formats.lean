import Datapack.Proofs.ErrorLines
import Datapack.Proofs.Ledger.History
import Datapack.Proofs.Ledger.Refusals

/-! Both formats of compiler output say the same: the lines of some findings, streamed in a new pass,
leave the same diagnostics standing as one report of these findings. -/

namespace Datapack.Diagnostic

namespace Ledger

variable {docs : Documents} {files : FileTree}

/-! ### Lines -/

/-- The operation that takes the line of a finding. -/
def lineOf (docs : Documents) (files : FileTree) (f : Finding) : Operation :=
  .takeLine docs files f.render

/-- The line of a finding brings the record of the finding. -/
theorem perform_lineOf {f : Finding} (hf : f.Writable) {r : Record}
    (hr : recordOf docs files f = .ok r) (t : Ledger) :
    (t.perform (lineOf docs files f)).after =
        ⟨t.store.note ⟨r.uri, (t.stream.append r).get r.uri⟩, t.stream.append r⟩ ∧
      (t.perform (lineOf docs files f)).result = .ok [r] := by
  have hrecord : lineRecord? docs files f.render = some r := by
    simp [lineRecord?, hf.readErrorLine_render, hr, Except.toOption]
  rw [lineOf, perform_line_of_some hrecord]
  exact ⟨rfl, rfl⟩

/-- The line of a finding is taken exactly if the finding has a record. -/
theorem isOk_perform_lineOf {f : Finding} (hf : f.Writable) (t : Ledger) :
    (t.perform (lineOf docs files f)).result.isOk ↔ (recordOf docs files f).isOk := by
  cases hr : recordOf docs files f with
  | ok r =>
      rw [(perform_lineOf hf hr t).2]
      exact ⟨fun _ => rfl, fun _ => rfl⟩
  | error e =>
      have hplan : (lineOf docs files f).plan t = .error e := by
        simp only [lineOf, Operation.plan, linePlan, hf.readErrorLine_render, hr]
        rfl
      rw [perform_of_error hplan]
      exact Iff.rfl

theorem isOk_history_lineOf {findings : List Finding} (hwritable : ∀ f ∈ findings, f.Writable)
    (t : Ledger) :
    (∀ e ∈ t.history (findings.map (lineOf docs files)), e.result.isOk) ↔
      ∀ f ∈ findings, (recordOf docs files f).isOk := by
  induction findings generalizing t with
  | nil => simp
  | cons f findings ih =>
      rw [List.forall_mem_cons] at hwritable
      rw [List.map_cons, history, List.forall_mem_cons, List.forall_mem_cons,
        isOk_perform_lineOf hwritable.1, ih hwritable.2]

/-- As long as what stands is what was streamed, each line makes one more record stand. -/
theorem store_run_lineOf {findings : List Finding} {records : List Record}
    (hrecords : List.Forall₂ (fun f r => recordOf docs files f = .ok r) findings records)
    (hwritable : ∀ f ∈ findings, f.Writable) {t : Ledger}
    (hstands : ∀ u, t.store.get u = t.stream.get u) (u : String) :
    (t.run (findings.map (lineOf docs files))).store.get u =
      t.stream.get u ++ records.filter (·.uri = u) := by
  induction hrecords generalizing t with
  | nil => simpa [run] using hstands u
  | @cons f r findings records hr _ ih =>
      rw [List.forall_mem_cons] at hwritable
      obtain ⟨hafter, _⟩ := perform_lineOf hwritable.1 hr t
      have hstands' : ∀ v, (t.perform (lineOf docs files f)).after.store.get v =
          (t.perform (lineOf docs files f)).after.stream.get v := by
        intro v
        rw [hafter, Store.get_note]
        by_cases hv : v = r.uri
        · rw [if_pos hv, hv]
        · have hv' : ¬r.uri = v := fun h => hv h.symm
          rw [if_neg hv, hstands v, Stream.get_append]
          simp [hv']
      rw [List.map_cons, run_cons, ih hwritable.2 hstands', hafter, Stream.get_append,
        List.append_assoc, ← List.filter_append, List.singleton_append]

/-! ### Reports -/

theorem isOk_reportRecords {folder : Path} {errors : List Finding} :
    (reportRecords docs files folder errors).isOk ↔
      ∀ f ∈ errors.map (Finding.within folder), (recordOf docs files f).isOk := by
  rw [List.forall_mem_map]
  exact isOk_mapM_iff

/-- A report of a folder that has a uri is taken exactly if it has records and it is known which
documents are open. -/
theorem isOk_perform_enterReport {folder : Path} {folderUri : String}
    (hfolder : Uri.ofPath folder.toText = .ok folderUri) (errors : List Finding)
    (suggestions : List Json) (t : Ledger) :
    (t.perform (.enterReport docs files folder (some ⟨errors, suggestions⟩))).result.isOk ↔
      (reportRecords docs files folder errors).isOk ∧ docs.openUris.isOk := by
  cases hplan : t.reportPlan docs files folder (some ⟨errors, suggestions⟩) with
  | ok c =>
      obtain ⟨records, _, openUris, hrecords, _, hopen, _⟩ := reportPlan_ok hplan
      have hrecords : reportRecords docs files folder errors = .ok records := hrecords
      rw [perform_of_ok (plan_report_of_ok hplan), hrecords, hopen]
      exact ⟨fun _ => ⟨rfl, rfl⟩, fun _ => rfl⟩
  | error e =>
      rw [perform_of_error (plan_report_of_error hplan)]
      refine ⟨nofun, fun ⟨hrecords, hopen⟩ => ?_⟩
      obtain ⟨records, hrecords⟩ := isOk_iff_exists.mp hrecords
      obtain ⟨openUris, hopen⟩ := isOk_iff_exists.mp hopen
      have hreport : reportRecords docs files folder
          (((some ⟨errors, suggestions⟩ : Option Report).map (·.errors)).getD []) = .ok records :=
        hrecords
      obtain ⟨c, hc, _⟩ := t.reportPlan_of_records hfolder hopen hreport
      rw [hc] at hplan
      cases hplan

/-- If everything that stands lies in the folder of a report, then only the report stands after it. -/
theorem store_enterReport {folder : Path} {folderUri : String} {openUris : List String}
    (hfolder : Uri.ofPath folder.toText = .ok folderUri) (hopen : docs.openUris = .ok openUris)
    {errors : List Finding} {records : List Record}
    (hrecords : reportRecords docs files folder errors = .ok records)
    (suggestions : List Json) {t : Ledger}
    (hinside : ∀ u ∈ Ordered.keys t.store, Uri.isInside u folderUri) (u : String) :
    (t.perform (.enterReport docs files folder (some ⟨errors, suggestions⟩))).after.store.get u =
      records.filter (·.uri = u) := by
  have hreported : reportRecords docs files folder
      (((some ⟨errors, suggestions⟩ : Option Report).map (·.errors)).getD []) = .ok records := hrecords
  rw [(perform_enterReport hfolder hopen hreported t).2]
  by_cases hu : u ∈ records.map (·.uri)
  · rw [if_pos hu]
  · have hnone : records.filter (·.uri = u) = [] := by
      rw [List.filter_eq_nil_iff]
      intro r hr hru
      exact hu (List.mem_map.mpr ⟨r, hr, of_decide_eq_true hru⟩)
    rw [if_neg hu, hnone]
    by_cases hin : Uri.isInside u folderUri
    · rw [if_pos hin]
    · rw [if_neg hin]
      exact Store.get_eq_nil_of_not_mem fun hmem => hin (hinside u hmem)

end Ledger

/-- The lines of findings of a folder, in a new pass, and one report of these findings are both taken
or both fail, save that only a report asks which documents are open; and they are taken if the
documents answer. If they are taken they leave the same diagnostics standing, provided that all that
stood before lies in the folder. -/
theorem lines_and_report_agree {docs : Documents} {files : FileTree} {folder : Path}
    {folderUri : String} {findings : List Finding}
    (hwritable : ∀ f ∈ findings, (f.within folder).Writable)
    (hpaths : ∀ f ∈ findings, ∃ uri, Uri.ofPath (f.within folder).file = .ok uri)
    (hfolder : Uri.ofPath folder.toText = .ok folderUri) {t : Ledger}
    (hinside : ∀ u ∈ Ordered.keys t.store, Uri.isInside u folderUri) (suggestions : List Json) :
    let lines := .openPass [] ::
      findings.map fun f => .takeLine docs files (f.within folder).render
    let report := t.perform (.enterReport docs files folder (some ⟨findings, suggestions⟩))
    (report.result.isOk ↔ (∀ e ∈ t.history lines, e.result.isOk) ∧ docs.openUris.isOk) ∧
    (docs.Answers files → report.result.isOk) ∧
    (report.result.isOk → ∀ u, (t.run lines).store.get u = report.after.store.get u) := by
  intro lines report
  have hlines : lines = .openPass [] ::
      (findings.map (Finding.within folder)).map (Ledger.lineOf docs files) := by
    rw [List.map_map]
    rfl
  have hwritable' : ∀ f ∈ findings.map (Finding.within folder), f.Writable := by
    rwa [List.forall_mem_map]
  have hreport : report.result.isOk ↔
      (Ledger.reportRecords docs files folder findings).isOk ∧ docs.openUris.isOk :=
    Ledger.isOk_perform_enterReport hfolder findings suggestions t
  have hopens : (t.perform (.openPass [])).result.isOk := by
    rw [Ledger.perform_openPass]
    rfl
  refine ⟨?_, ?_, ?_⟩
  · rw [hreport, Ledger.isOk_reportRecords, hlines, Ledger.history, List.forall_mem_cons,
      and_iff_right hopens, Ledger.isOk_history_lineOf hwritable']
  · intro hdocs
    rw [hreport, Ledger.isOk_reportRecords, List.forall_mem_map]
    refine ⟨fun f hf => ?_, isOk_iff_exists.mpr hdocs.openUris⟩
    obtain ⟨uri, huri⟩ := hpaths f hf
    cases hrecord : Ledger.recordOf docs files (f.within folder) with
    | ok r => rfl
    | error e =>
        obtain ⟨hbare, rfl⟩ := (Ledger.recordOf_eq_error_iff hdocs).mp hrecord
        rw [Uri.ofPath_eq_error_iff.mpr ⟨hbare, rfl⟩] at huri
        cases huri
  · intro hok u
    obtain ⟨hrecords, hopen⟩ := hreport.mp hok
    obtain ⟨records, hrecords⟩ := isOk_iff_exists.mp hrecords
    obtain ⟨openUris, hopen⟩ := isOk_iff_exists.mp hopen
    have hstands : ∀ v, (t.perform (.openPass [])).after.store.get v =
        (t.perform (.openPass [])).after.stream.get v := by
      intro v
      rw [Ledger.store_openPass, Ledger.perform_openPass]
      rfl
    have hforall : List.Forall₂ (fun f r => Ledger.recordOf docs files f = .ok r)
        (findings.map (Finding.within folder)) records :=
      List.forall₂_map_left_iff.mpr (forall₂_of_mapM_ok hrecords)
    have hrun := Ledger.store_run_lineOf hforall hwritable' hstands u
    rw [Ledger.store_enterReport hfolder hopen hrecords suggestions hinside u, hlines,
      Ledger.run_cons, hrun, Ledger.perform_openPass]
    rfl

/-- A ledger with diagnostics of one document, which lies in `/ws`. -/
def packLedger : Ledger :=
  { store := [("file:///ws/a.dps", [⟨"file:///ws/a.dps", 0, 0, "old", .error, sourceName⟩])] }

/-- Findings with a bar and a dash in a message, with the end of a document, and with a negative
column, for a file that comes twice and one outside of the folder. -/
def mixedFindings : List Finding :=
  [⟨"b.dps", 3, 2, "either|or 1-2|"⟩, ⟨"/other/c.dps", -1, 0, "end"⟩, ⟨"b.dps", 4, -7, ""⟩]

theorem mixedFindings_agree :
    let docs : Documents := .given [("file:///other/c.dps", "one\ntwo")] []
    let report := packLedger.perform (.enterReport docs {} ⟨.slash, ["ws"]⟩ (some ⟨mixedFindings, []⟩))
    report.result.isOk ∧
    (∀ u, (packLedger.run (.openPass [] :: mixedFindings.map fun f =>
        .takeLine docs {} (f.within ⟨.slash, ["ws"]⟩).render)).store.get u =
      report.after.store.get u) ∧
    (report.after.store.get "file:///ws/b.dps").length = 2 := by
  intro docs report
  have hpaths : ∀ f ∈ mixedFindings,
      ∃ uri, Uri.ofPath (f.within ⟨.slash, ["ws"]⟩).file = .ok uri := by
    intro f hf
    cases huri : Uri.ofPath (f.within ⟨.slash, ["ws"]⟩).file with
    | ok uri => exact ⟨uri, rfl⟩
    | error e =>
        have hbare : ∀ f ∈ mixedFindings,
            Uri.isBareHost (f.within ⟨.slash, ["ws"]⟩).file = false := by decide +kernel
        simpa [hbare f hf] using (Uri.ofPath_eq_error_iff.mp huri).1
  have hwritable : ∀ f ∈ mixedFindings, (f.within ⟨.slash, ["ws"]⟩).Writable := by decide +kernel
  have hfolder : Uri.ofPath (Path.toText ⟨.slash, ["ws"]⟩) = .ok "file:///ws" := by rfl
  have hinside : ∀ u ∈ Ordered.keys packLedger.store, Uri.isInside u "file:///ws" := by decide +kernel
  obtain ⟨_, htaken, hsame⟩ :=
    @lines_and_report_agree docs {} _ _ _ hwritable hpaths hfolder _ hinside []
  have hok := htaken (Documents.answers_given _ _ _)
  exact ⟨hok, hsame hok, by decide +kernel⟩

end Datapack.Diagnostic
