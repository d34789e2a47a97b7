import Datapack.Proofs.Ledger.Reports

/-! What a ledger refuses. Two slashes with no further slash name a host without a share, and such a
path has no uri. As long as the texts of documents can be had, a line or a report is refused exactly
if it holds such a path. -/

namespace Datapack

/-- Two slashes in front, and no further slash: a host without a share. -/
def Uri.isBareHost (path : String) : Bool :=
  match path.toList with
  | '/' :: '/' :: rest => !rest.contains '/'
  | _ => false

theorem Uri.splitAuthority_eq_error_iff {cs : List Char} {e : Fault} :
    splitAuthority cs = .error e ↔ isBareHost (String.ofList cs) ∧ e = .noShare := by
  rw [isBareHost, String.toList_ofList]
  fun_cases splitAuthority cs with
  | case1 rest hslash => simp_all
  | case2 rest hslash => simp_all [eq_comm]
  | case3 cs hother => simp_all

theorem Uri.ofPath_eq_error_iff {path : String} {e : Fault} :
    ofPath path = .error e ↔ isBareHost path ∧ e = .noShare := by
  have hchars : ofPathChars path.toList = .error e ↔ splitAuthority path.toList = .error e := by
    refine bind_eq_error_iff ?_
    rintro ⟨authority, rest⟩ -
    dsimp only
    generalize quotePath _ = quoted
    split
    · exact ⟨_, rfl⟩
    · exact ⟨_, rfl⟩
  have hmap : ofPath path = .error e ↔ ofPathChars path.toList = .error e := by
    rw [ofPath]
    cases ofPathChars path.toList <;> simp [Except.map]
  rw [hmap, hchars, splitAuthority_eq_error_iff, String.ofList_toList]

/-- The text of every document can be had, or there is none; and it is known which are open. -/
structure Documents.Answers (docs : Documents) (files : FileTree) : Prop where
  text : ∀ uri, ∃ text, docs.text files uri = .ok text
  openUris : ∃ openUris, docs.openUris = .ok openUris

theorem Documents.answers_given (texts : Ordered String) (folders : List Path) (files : FileTree) :
    (given texts folders).Answers files :=
  ⟨fun _ => ⟨_, rfl⟩, ⟨_, rfl⟩⟩

namespace Diagnostic

/-- An error line for a file that has no uri. -/
def lineNamesBareHost (raw : String) : Bool :=
  match readErrorLine raw with
  | .ok (some finding) => Uri.isBareHost finding.file
  | _ => false

/-- A report of a folder that has no uri, or for a file that has none. -/
def reportNamesBareHost (folder : Path) (report : Option Report) : Bool :=
  ((report.map (·.errors)).getD []).any (fun f => Uri.isBareHost (f.within folder).file) ||
    Uri.isBareHost folder.toText

namespace Ledger

variable {docs : Documents} {files : FileTree}

theorem recordOf_eq_error_iff (hdocs : docs.Answers files) {f : Finding} {e : Fault} :
    recordOf docs files f = .error e ↔ Uri.isBareHost f.file ∧ e = .noShare := by
  rw [← Uri.ofPath_eq_error_iff]
  refine bind_eq_error_iff ?_
  intro uri _
  obtain ⟨text, htext⟩ := hdocs.text uri
  simp only [htext]
  split
  · exact ⟨_, rfl⟩
  · exact ⟨_, rfl⟩

theorem linePlan_eq_error_iff (hdocs : docs.Answers files) {t : Ledger} {raw : String} {e : Fault} :
    t.linePlan docs files raw = .error e ↔ lineNamesBareHost raw ∧ e = .noShare := by
  unfold linePlan lineNamesBareHost
  cases readErrorLine raw with
  | error e' => simp
  | ok finding =>
      cases finding with
      | none => simp
      | some finding =>
          rw [← recordOf_eq_error_iff hdocs]
          exact bind_eq_error_iff fun _ _ => ⟨_, rfl⟩

theorem reportRecords_eq_error_iff (hdocs : docs.Answers files) {folder : Path}
    {errors : List Finding} {e : Fault} :
    reportRecords docs files folder errors = .error e ↔
      (∃ f ∈ errors, Uri.isBareHost (f.within folder).file) ∧ e = .noShare := by
  rw [reportRecords, mapM_eq_error_iff (e := .noShare), and_comm]
  · simp only [recordOf_eq_error_iff hdocs, and_true]
    rfl
  · intro f e' h
    exact ((recordOf_eq_error_iff hdocs).mp h).2

theorem reportPlan_eq_error_iff (hdocs : docs.Answers files) {t : Ledger} {folder : Path}
    {report : Option Report} {e : Fault} :
    t.reportPlan docs files folder report = .error e ↔
      reportNamesBareHost folder report ∧ e = .noShare := by
  simp only [reportNamesBareHost, Bool.or_eq_true, List.any_eq_true, reportPlan]
  cases hr : reportRecords docs files folder ((report.map (·.errors)).getD []) with
  | error e' =>
      obtain ⟨hbad, rfl⟩ := (reportRecords_eq_error_iff hdocs).mp hr
      rw [and_iff_right (.inl hbad)]
      exact Except.error.injEq .noShare e ▸ eq_comm
  | ok records =>
      have hgood : ¬∃ f ∈ (report.map (·.errors)).getD [], Uri.isBareHost (f.within folder).file := by
        intro hbad
        simp [(reportRecords_eq_error_iff hdocs).mpr ⟨hbad, rfl⟩] at hr
      rw [or_iff_right hgood, ← Uri.ofPath_eq_error_iff]
      obtain ⟨openUris, hopen⟩ := hdocs.openUris
      rw [hopen]
      exact bind_eq_error_iff fun _ _ => ⟨_, rfl⟩

theorem linePlan_ok_of_not (hdocs : docs.Answers files) (t : Ledger) {raw : String}
    (h : lineNamesBareHost raw = false) : ∃ c, t.linePlan docs files raw = .ok c := by
  cases hline : t.linePlan docs files raw with
  | ok c => exact ⟨c, rfl⟩
  | error e => simpa [h] using (linePlan_eq_error_iff hdocs).mp hline

theorem reportPlan_ok_of_not (hdocs : docs.Answers files) (t : Ledger) {folder : Path}
    {report : Option Report} (h : reportNamesBareHost folder report = false) :
    ∃ c, t.reportPlan docs files folder report = .ok c := by
  cases hreport : t.reportPlan docs files folder report with
  | ok c => exact ⟨c, rfl⟩
  | error e => simpa [h] using (reportPlan_eq_error_iff hdocs).mp hreport

end Ledger

end Diagnostic

end Datapack
