import Datapack.Proofs.CommandLine.Compiles
import Datapack.Proofs.Ledger.Refusals

/-! Compiler output that cannot be used. A line or a report that holds a host without a share is
refused as a whole; in a pass, the folders after such a report are left out. All other output is
taken. -/

namespace Datapack

open Diagnostic Machine Simulation CommandLine

/-- Reports are entered up to the first that is refused. -/
theorem CommandLine.enterReports_eq {docs : Documents} {w : World}
    (hdocs : docs.Answers w.machine.files) (t : Ledger) (reports : Reports) :
    ∃ w' t',
      enterReports docs w t (reports.takeWhile fun p => !reportNamesBareHost p.1 p.2) =
        (w', t', .ok ()) ∧
      enterReports docs w t reports =
        (w', t', if reports.any (fun p => reportNamesBareHost p.1 p.2) then .error .noShare
          else .ok ()) := by
  induction reports generalizing w t with
  | nil => exact ⟨w, t, rfl, rfl⟩
  | cons p reports ih =>
      cases hbad : reportNamesBareHost p.1 p.2 with
      | true =>
          have hrefused : t.reportPlan docs w.machine.files p.1 p.2 = .error .noShare :=
            (Ledger.reportPlan_eq_error_iff hdocs).mpr ⟨hbad, rfl⟩
          refine ⟨w, t, by simp [hbad, enterReports], ?_⟩
          simpa [hbad] using enterReports_cons_of_error reports hrefused
      | false =>
          obtain ⟨c, hc⟩ := t.reportPlan_ok_of_not hdocs hbad
          obtain ⟨w₁, hfiles, hstep⟩ := enterReports_cons_of_ok hc
          obtain ⟨w', t', hfront, hall⟩ := ih (w := w₁) (by rw [hfiles]; exact hdocs)
            ⟨(publications c.effects).foldl Store.note t.store, c.stream⟩
          refine ⟨w', t', ?_, ?_⟩
          · rw [List.takeWhile_cons_of_pos (by simp [hbad]), hstep, hfront]
          · rw [hstep, List.any_cons, hbad, Bool.false_or, hall]

/-- A session enters a report and goes on, unless the report is refused. -/
theorem Machine.State.enterReport_eq {s : State} {q : Session} (hs : s.session = some q)
    (hdocs : q.documents.Answers s.files) (hpublisher : ∀ p, q.publisher p = .ok ()) (folder : Path)
    (report : Option Report) :
    (reportNamesBareHost folder report → s.enterReport folder report = (s, .error .noShare)) ∧
      (reportNamesBareHost folder report = false →
        ∃ s', s.enterReport folder report = (s', .ok ())) := by
  let work (q : Session) := Ledger.enterReport q.documents s.files q.publisher folder report
  refine ⟨fun hbad => ?_, fun hgood => ?_⟩
  · have hrun := Ledger.run_enterReport_of_error q.publisher
      ((Ledger.reportPlan_eq_error_iff (t := q.ledger) hdocs).mpr ⟨hbad, rfl⟩)
    rw [State.enterReport, State.edit_eq hs work hrun]
    simp [Except.map, ← hs]
  · obtain ⟨c, hc⟩ := q.ledger.reportPlan_ok_of_not hdocs hgood
    have hrun := Ledger.run_enterReport_of_ok _ hc fun p _ => hpublisher p
    exact ⟨_, State.edit_eq hs work hrun⟩

/-- With a client that takes everything and documents that answer, a line is refused exactly if it
is an error line for a host without a share, and a report exactly if it names such a path or is of
one; nothing is done then. All other lines and reports are taken whole. A pass, on the command line
and in a session, goes on to the next folder exactly if the report was not refused. -/
theorem refused_iff_names_bareHost {docs : Documents} {files : FileTree} {publisher : Publisher}
    (hdocs : docs.Answers files) (hpublisher : ∀ p, publisher p = .ok ()) (t : Ledger) :
    (∀ raw,
      (lineNamesBareHost raw →
        (Ledger.takeLine docs files publisher raw).run t = (t, [], .error .noShare)) ∧
      (lineNamesBareHost raw = false → ∃ t' effects record?,
        (Ledger.takeLine docs files publisher raw).run t = (t', effects, .ok record?))) ∧
    (∀ folder report,
      (reportNamesBareHost folder report →
        (Ledger.enterReport docs files publisher folder report).run t = (t, [], .error .noShare)) ∧
      (reportNamesBareHost folder report = false →
        ∃ t' effects grouped records folderUri openUris,
        (Ledger.enterReport docs files publisher folder report).run t =
          (t', effects, .ok grouped) ∧
        List.Forall₂ (fun f r => Ledger.recordOf docs files (f.within folder) = .ok r)
          ((report.map (·.errors)).getD []) records ∧
        Uri.ofPath folder.toText = .ok folderUri ∧ docs.openUris = .ok openUris ∧
        ReportEffect openUris folderUri records t t' grouped (publications effects))) ∧
    (∀ (w : World) (reports : Reports), w.machine.files = files → ∃ w' t',
      enterReports docs w t (reports.takeWhile fun p => !reportNamesBareHost p.1 p.2) =
        (w', t', .ok ()) ∧
      enterReports docs w t reports =
        (w', t', if reports.any (fun p => reportNamesBareHost p.1 p.2) then .error .noShare
          else .ok ())) ∧
    ∀ (s : State) (q : Session) (id : TaskId) (work : Work) (report : Option Report),
      s.session = some q → q.documents = docs → s.files = files → q.publisher = publisher →
      work.stage = .pass →
      (reportNamesBareHost work.folder report →
        s.compiled id work report = (s.releaseRunner work.runner).endPass id (.error .noShare)) ∧
      (reportNamesBareHost work.folder report = false → ∃ s',
        (s.releaseRunner work.runner).enterReport work.folder report = (s', .ok ()) ∧
        s.compiled id work report =
          s'.runFolders id ((s'.session.bind (·.runner)).getD work.runner) .pass false work.rest) := by
  refine ⟨?_, ?_, ?_, ?_⟩
  · intro raw
    rw [Ledger.run_takeLine]
    refine ⟨fun hbad => ?_, fun hgood => ?_⟩
    · rw [(Ledger.linePlan_eq_error_iff hdocs).mpr ⟨hbad, rfl⟩]
      rfl
    · obtain ⟨c, hc⟩ := t.linePlan_ok_of_not hdocs hgood
      rw [hc]
      exact ⟨_, _, _, Ledger.commit_of_taken publisher t c fun p _ => hpublisher p⟩
  · intro folder report
    refine ⟨fun hbad => ?_, fun hgood => ?_⟩
    · exact Ledger.run_enterReport_of_error _ ((Ledger.reportPlan_eq_error_iff hdocs).mpr ⟨hbad, rfl⟩)
    · obtain ⟨c, hc⟩ := t.reportPlan_ok_of_not hdocs hgood
      have hrun := Ledger.run_enterReport_of_ok _ hc fun p _ => hpublisher p
      obtain ⟨records, folderUri, openUris, hrecords, huri, hopen, hafter, hgrouped, hpublished⟩ :=
        Ledger.run_enterReport_ok hrun
      refine ⟨_, _, _, records, folderUri, openUris, hrun, forall₂_of_mapM_ok hrecords, huri, hopen,
        ?_⟩
      rw [hafter, hpublished, hgrouped]
      exact t.reportEffect openUris folderUri records
  · rintro w reports rfl
    exact enterReports_eq hdocs t reports
  · rintro s q id work report hs rfl rfl rfl hstage
    have hentered := State.enterReport_eq (s := s.releaseRunner work.runner) hs hdocs hpublisher
      work.folder report
    rw [State.compiled_pass s id hstage]
    refine ⟨fun hbad => ?_, fun hgood => ?_⟩
    · rw [hentered.1 hbad]
    · obtain ⟨s', hs'⟩ := hentered.2 hgood
      exact ⟨s', hs', by rw [hs']⟩

/-- A report of a usable file and of a host without a share. -/
def halfUsableReport : Report :=
  { errors := [⟨"a.dps", 1, 0, "bad"⟩, ⟨"//x", 1, 0, "bad"⟩], suggestions := [] }

/-- A report of a usable file at its end. -/
def usableReport : Report := { errors := [⟨"a.dps", -1, 0, "bad"⟩], suggestions := [] }

/-- The usable report is entered, and the pass ends after it: the report that follows is refused. -/
theorem usableReport_taken :
    (∃ t' effects grouped, (Ledger.enterReport (.given [] []) {} .accepting ⟨.slash, ["ws"]⟩
      (some usableReport)).run mixedLedger = (t', effects, .ok grouped)) ∧
    ∃ w' t',
      enterReports (.given [] []) { machine := {} } mixedLedger
        [(⟨.slash, ["ws"]⟩, some usableReport)] = (w', t', .ok ()) ∧
      enterReports (.given [] []) { machine := {} } mixedLedger
        [(⟨.slash, ["ws"]⟩, some usableReport), (⟨.slash, ["lib"]⟩, some halfUsableReport),
          (⟨.slash, ["else"]⟩, none)] = (w', t', .error .noShare) := by
  have hpublisher : ∀ p, Publisher.accepting p = .ok () := fun _ => rfl
  have htaken : reportNamesBareHost ⟨.slash, ["ws"]⟩ (some usableReport) = false := by decide +kernel
  have hrefused : reportNamesBareHost ⟨.slash, ["lib"]⟩ (some halfUsableReport) = true := by
    decide +kernel
  obtain ⟨_, hreport, hpass, _⟩ :=
    refused_iff_names_bareHost (Documents.answers_given [] [] {}) hpublisher mixedLedger
  refine ⟨?_, ?_⟩
  · obtain ⟨t', effects, grouped, _, _, _, hrun, _⟩ :=
      (hreport ⟨.slash, ["ws"]⟩ (some usableReport)).2 htaken
    exact ⟨t', effects, grouped, hrun⟩
  · obtain ⟨w', t', hfront, hall⟩ := hpass { machine := {} }
      [(⟨.slash, ["ws"]⟩, some usableReport), (⟨.slash, ["lib"]⟩, some halfUsableReport),
        (⟨.slash, ["else"]⟩, none)] rfl
    refine ⟨w', t', ?_, ?_⟩
    · simpa [htaken, hrefused] using hfront
    · simpa [hrefused] using hall

/-- One unusable line is an error, and one unusable entry keeps a report from being entered though
its other entry has a uri, and a pass from going on to a folder whose document it should clear. -/
theorem halfUsableReport_blocks :
    (Ledger.takeLine (.given [] []) {} .accepting "error://x|1-0|bad").run mixedLedger =
      (mixedLedger, [], .error .noShare) ∧
    (Uri.ofPath "/ws/a.dps").isOk ∧
    (Ledger.enterReport (.given [] []) {} .accepting ⟨.slash, ["ws"]⟩
      (some halfUsableReport)).run mixedLedger = (mixedLedger, [], .error .noShare) ∧
    enterReports (.given [] []) { machine := {} } mixedLedger
        [(⟨.slash, ["ws"]⟩, some halfUsableReport), (⟨.slash, ["else"]⟩, none)] =
      ({ machine := {} }, mixedLedger, .error .noShare) ∧
    mixedLedger.store.get "file:///else/e.dps" ≠ [] := by
  have hdocs := Documents.answers_given [] [] {}
  have hline : mixedLedger.linePlan (.given [] []) {} "error://x|1-0|bad" = .error .noShare :=
    (Ledger.linePlan_eq_error_iff hdocs).mpr ⟨by decide +kernel, rfl⟩
  have hplan : mixedLedger.reportPlan (.given [] []) {} ⟨.slash, ["ws"]⟩ (some halfUsableReport) =
      .error .noShare := (Ledger.reportPlan_eq_error_iff hdocs).mpr ⟨by decide +kernel, rfl⟩
  have hreport := Ledger.run_enterReport_of_error .accepting hplan
  refine ⟨?_, by decide +kernel, hreport, ?_, by decide +kernel⟩
  · rw [Ledger.run_takeLine, hline]
    rfl
  · unfold enterReports
    rw [hreport]
    rfl

end Datapack
