import Datapack.CommandLine.Run
import Datapack.Proofs.CommandLine.Compiles
import Datapack.Proofs.Ledger.Survivors
import Datapack.Proofs.Uris

/-! The exit status of a compile. It is not taken from the reports but from what stands once all of
them have been entered, and a report also clears what earlier ones have named in its folder. -/

namespace Datapack.CommandLine

open Diagnostic Machine Simulation

/-! ### Entering reports -/

section

variable {docs : Documents} {w : World} {reports : Reports}

theorem enterReports_of_enterable (h : ∀ p ∈ reports, Enterable docs w.machine.files p)
    (t : Ledger) :
    ∃ w', w'.machine.files = w.machine.files ∧
      enterReports docs w t reports =
        (w', t.run (reports.operations docs w.machine.files), .ok ()) := by
  induction reports generalizing w t with
  | nil => exact ⟨w, rfl, rfl⟩
  | cons p reports ih =>
      rw [List.forall_mem_cons] at h
      obtain ⟨c, hc⟩ := (enterable_iff t).mp h.1
      obtain ⟨w₁, hfiles, hstep⟩ := enterReports_cons_of_ok hc
      obtain ⟨w', hfiles', hrest⟩ := ih (w := w₁) (by rw [hfiles]; exact h.2)
        ⟨(publications c.effects).foldl Store.note t.store, c.stream⟩
      refine ⟨w', hfiles'.trans hfiles, ?_⟩
      rw [hstep, hrest, hfiles]
      simp only [Reports.operations, List.map_cons, Ledger.run_cons,
        Ledger.perform_of_ok (Ledger.plan_report_of_ok hc)]
      rfl

theorem enterReports_of_not_enterable (h : ¬∀ p ∈ reports, Enterable docs w.machine.files p)
    (t : Ledger) :
    ∃ w' t' e, w'.machine.files = w.machine.files ∧
      enterReports docs w t reports = (w', t', .error e) := by
  induction reports generalizing w t with
  | nil => simp at h
  | cons p reports ih =>
      cases hc : t.reportPlan docs w.machine.files p.1 p.2 with
      | error e =>
          exact ⟨w, t, e, rfl, enterReports_cons_of_error reports hc⟩
      | ok c =>
          obtain ⟨w₁, hfiles, hstep⟩ := enterReports_cons_of_ok hc
          have hrest : ¬∀ p ∈ reports, Enterable docs w.machine.files p := by
            intro hrest
            exact h (List.forall_mem_cons.mpr ⟨(enterable_iff t).mpr ⟨c, hc⟩, hrest⟩)
          obtain ⟨w', t', e, hfiles', hall⟩ := ih (w := w₁) (by rwa [hfiles])
            ⟨(publications c.effects).foldl Store.note t.store, c.stream⟩
          exact ⟨w', t', e, hfiles'.trans hfiles, by rw [hstep, hall]⟩

end

/-! ### What stands is printed -/

theorem mem_allRecords {store : Store} {r : Record} :
    r ∈ allRecords store ↔ ∃ p ∈ store, r ∈ p.2 := by
  simp [allRecords]

theorem allRecords_ne_nil_iff {store : Store} (h : store.Filed) :
    allRecords store ≠ [] ↔ ∃ u, store.get u ≠ [] := by
  simp only [h.get_ne_nil_iff, Ordered.keys, List.mem_map]
  constructor
  · intro hne
    obtain ⟨r, hr⟩ := List.exists_mem_of_ne_nil _ hne
    obtain ⟨p, hp, _⟩ := mem_allRecords.mp hr
    exact ⟨p.1, p, hp, rfl⟩
  · rintro ⟨u, p, hp, rfl⟩
    obtain ⟨r, hr⟩ := List.exists_mem_of_ne_nil _ (h p hp).1
    exact List.ne_nil_of_mem (mem_allRecords.mpr ⟨p, hp, hr⟩)

theorem shownPath_ok {path uri : String} (h : Uri.ofPath path = .ok uri) :
    ∃ shown, shownPath uri = .ok shown := by
  obtain ⟨path', hpath'⟩ := Uri.toPath_ok_of_ofPath h
  rw [shownPath, hpath']
  cases path' with
  | none => exact ⟨_, rfl⟩
  | some path' => exact ⟨_, rfl⟩

theorem reportRow_ok {r : Record} (h : ∃ path, Uri.ofPath path = .ok r.uri) :
    ∃ row, reportRow r = .ok row := by
  obtain ⟨path, hpath⟩ := h
  obtain ⟨shown, hshown⟩ := shownPath_ok hpath
  rw [reportRow, hshown]
  exact ⟨_, rfl⟩

theorem reportRows_ok {records : List Record}
    (h : ∀ r ∈ records, ∃ path, Uri.ofPath path = .ok r.uri) :
    ∃ rows, records.mapM reportRow = .ok rows := by
  induction records with
  | nil => exact ⟨[], rfl⟩
  | cons r records ih =>
      rw [List.forall_mem_cons] at h
      obtain ⟨row, hrow⟩ := reportRow_ok h.1
      obtain ⟨rows, hrows⟩ := ih h.2
      exact ⟨row :: rows, by rw [List.mapM_cons, hrow, hrows]; rfl⟩

/-- Diagnostics of files can always be shown. -/
theorem reportLines_ok {records : List Record}
    (h : ∀ r ∈ records, ∃ path, Uri.ofPath path = .ok r.uri) :
    ∃ lines, reportLines records = .ok lines := by
  obtain ⟨rows, hrows⟩ := reportRows_ok h
  rw [reportLines, hrows]
  split
  · exact ⟨_, rfl⟩
  · exact ⟨_, rfl⟩

/-! ### Compiles -/

/-- What a compile with a new ledger comes to. -/
theorem compileAll_cases {settings : Settings} {folders : List Path} {w : World}
    {reports : Reports} (h : reportsOf? settings folders w = some reports) (docs : Documents) :
    ∃ w' t result, compileAll settings docs folders w {} = (w', t, result) ∧
      ((∀ p ∈ reports, Enterable docs w'.machine.files p) →
        result = .ok () ∧ t.store.Filed ∧ ∀ u, t.store.get u ≠ [] ↔ reports.Keep u) ∧
      ((¬∀ p ∈ reports, Enterable docs w'.machine.files p) → ∃ e, result = .error e) := by
  obtain ⟨w₁, hcompile⟩ := compileAll_eq h docs {}
  by_cases hall : ∀ p ∈ reports, Enterable docs w₁.machine.files p
  · obtain ⟨w', hfiles, henter⟩ := enterReports_of_enterable hall {}
    refine ⟨w', _, _, hcompile.trans henter, ?_, ?_⟩
    · intro _
      have hempty : Store.Filed (Ledger.store {}) := fun p hp => absurd hp List.not_mem_nil
      exact ⟨rfl, Ledger.filed_run_operations hall hempty, Ledger.stands_run_operations hall⟩
    · intro hnot
      exact absurd (hfiles ▸ hall) hnot
  · obtain ⟨w', t', e, hfiles, henter⟩ := enterReports_of_not_enterable hall {}
    exact ⟨w', t', _, hcompile.trans henter, fun hall' => absurd (hfiles ▸ hall') hall,
      fun _ => ⟨e, rfl⟩⟩

theorem exists_uri_of_checkFolders {folders : List String} {paths : List Path}
    (h : Console.checkFolders folders = .ok paths) {path : Path} (hpath : path ∈ paths) :
    ∃ uri, Uri.ofPath path.toText = .ok uri := by
  obtain ⟨folder, _, hfolder⟩ := exists_of_mem_of_mapM_ok h hpath
  split at hfolder
  · cases hfolder
  · cases hfolder
    exact Path.exists_uri_resolve folder

/-- Only the entries of a report can keep it from being entered, if its folder has a uri and the
documents are on disk. -/
theorem haveErrors_of_not_enterable {folders : List Path} {files : FileTree} {reports : Reports}
    (hfolders : ∀ p ∈ reports, ∃ uri, Uri.ofPath p.1.toText = .ok uri)
    (h : ¬∀ p ∈ reports, Enterable (.disk folders) files p) : reports.HaveErrors := by
  by_contra hnone
  refine h fun p hp => ⟨hfolders p hp, ⟨_, rfl⟩, [], ?_⟩
  have herrors : (p.2.map (·.errors)).getD [] = [] := by
    by_contra herrors
    exact hnone ⟨p, hp, herrors⟩
  rw [herrors]
  rfl

/-- The settings of a run change nothing of the run itself but the threshold of the log. -/
theorem configured_ok {c c₀ : Console} {env : List (String × String)} {level : Option String}
    {settings : Settings} (h : c.configured env level = .ok (settings, c₀)) :
    c₀ = { c with threshold := c₀.threshold } := by
  unfold Console.configured at h
  cases hsettings : (Settings.ofEnvironment env).mapError Fault.invalid with
  | error e => simp [hsettings, bind, Except.bind] at h
  | ok settings' =>
      cases hlevel : LogLevel.initial ((level.filter (!·.isEmpty)).getD settings'.logLevel) with
      | error e => simp [hsettings, hlevel, bind, Except.bind] at h
      | ok threshold =>
          simp only [hsettings, hlevel, bind, Except.bind, pure, Except.pure, Except.ok.injEq,
            Prod.mk.injEq] at h
          rw [← h.2]

theorem run_compile_cases {c c₀ : Console} {env : List (String × String)} (items : List WatchItem)
    {folders : List String} {level : Option String} {paths : List Path} {settings : Settings}
    {reports : Reports} (hfresh : c.ledger = {})
    (hfolders : Console.checkFolders folders = .ok paths)
    (hconfigured : c.configured env level = .ok (settings, c₀))
    (hreports : reportsOf? settings paths c.world = some reports) :
    ∃ c' ending, c.run env items (.compile folders level) = (c', ending) ∧
      ((∀ p ∈ reports, Enterable (.disk paths) c'.world.machine.files p) →
        ending = .exit (if (allRecords c'.ledger.store).length = 0 then 0 else 1) ∧
        (allRecords c'.ledger.store ≠ [] ↔ ∃ u, reports.Keep u)) ∧
      ((¬∀ p ∈ reports, Enterable (.disk paths) c'.world.machine.files p) →
        ∃ e, ending = .failure e) := by
  obtain ⟨w', t, result, hcompile, hgood, hbad⟩ := compileAll_cases hreports (.disk paths)
  have hc₀ := configured_ok hconfigured
  simp only [Console.run, hfolders, hconfigured, Console.compile]
  rw [hc₀]
  simp only [hfresh, hcompile]
  by_cases hall : ∀ p ∈ reports, Enterable (.disk paths) w'.machine.files p
  · obtain ⟨rfl, hfiled, hkeep⟩ := hgood hall
    have hfiles : ∀ r ∈ allRecords t.store, ∃ path, Uri.ofPath path = .ok r.uri := by
      intro r hr
      obtain ⟨p, hp, hr⟩ := mem_allRecords.mp hr
      exact (hfiled p hp).2 r hr
    obtain ⟨lines, hlines⟩ := reportLines_ok hfiles
    simp only [hlines]
    exact ⟨_, _, rfl, fun _ => ⟨rfl, (allRecords_ne_nil_iff hfiled).trans (exists_congr hkeep)⟩,
      fun hnot => absurd hall hnot⟩
  · obtain ⟨e, rfl⟩ := hbad hall
    exact ⟨_, _, rfl, fun hall' => absurd hall' hall, fun _ => ⟨e, rfl⟩⟩

/-- What a compile with a new ledger finds has a diagnostic exactly if some report names a document
that the folder of no later report holds, and the exit status of the command is one exactly in this
case, or if some entry cannot be placed. So the status tells whether a report has an error exactly
if no report has one, or some entry cannot be placed, or some document is kept in this sense. -/
theorem exit_one_iff_kept {settings : Settings} {docs : Documents} {folders : List Path}
    {w w' : World} {reports : Reports} {t : Ledger} {result : Except Fault Unit}
    (hreports : reportsOf? settings folders w = some reports)
    (hcompiled : compileAll settings docs folders w {} = (w', t, result)) :
    (result = .ok () ↔ ∀ p ∈ reports, Enterable docs w'.machine.files p) ∧
    (result = .ok () →
      (allRecords t.store ≠ [] ↔ ∃ u, reports.Keep u) ∧
      ((allRecords t.store ≠ [] ↔ reports.HaveErrors) ↔
        (reports.HaveErrors → ∃ u, reports.Keep u))) ∧
    ∀ {c c₀ c' : Console} {env : List (String × String)} {items : List WatchItem}
        {names : List String} {level : Option String} {ending : Ending},
      c.world = w → c.ledger = {} → Console.checkFolders names = .ok folders →
      c.configured env level = .ok (settings, c₀) →
      c.run env items (.compile names level) = (c', ending) →
      ((∀ p ∈ reports, Enterable (.disk folders) c'.world.machine.files p) →
        (ending.code = 1 ↔ allRecords c'.ledger.store ≠ [])) ∧
      (ending.code = 1 ↔ ((∀ p ∈ reports, Enterable (.disk folders) c'.world.machine.files p) →
        ∃ u, reports.Keep u)) ∧
      ((ending.code = 1 ↔ reports.HaveErrors) ↔
        ((∀ p ∈ reports, Enterable (.disk folders) c'.world.machine.files p) →
          reports.HaveErrors → ∃ u, reports.Keep u)) := by
  have hkept : (∃ u, reports.Keep u) → reports.HaveErrors := fun ⟨_, hkeep⟩ => hkeep.haveErrors
  rw [← and_assoc]
  constructor
  · obtain ⟨_, _, _, hcompile, hgood, hbad⟩ := compileAll_cases hreports docs
    rw [hcompiled] at hcompile
    cases hcompile
    by_cases hall : ∀ p ∈ reports, Enterable docs w'.machine.files p
    · obtain ⟨hok, hfiled, hkeep⟩ := hgood hall
      have hstands := (allRecords_ne_nil_iff hfiled).trans (exists_congr hkeep)
      refine ⟨iff_of_true hok hall, fun _ => ⟨hstands, ?_⟩⟩
      rw [hstands]
      exact ⟨fun h => h.mpr, fun h => ⟨hkept, h⟩⟩
    · obtain ⟨e, rfl⟩ := hbad hall
      exact ⟨iff_of_false nofun hall, nofun⟩
  · rintro c c₀ c' env items names level ending rfl hfresh hfolders hconfigured hrun
    obtain ⟨_, _, hcases, hgood, hbad⟩ :=
      run_compile_cases items hfresh hfolders hconfigured hreports
    rw [hrun] at hcases
    cases hcases
    by_cases hall : ∀ p ∈ reports, Enterable (.disk folders) c'.world.machine.files p
    · obtain ⟨rfl, hstands⟩ := hgood hall
      have hcode :
          (Ending.exit (if (allRecords c'.ledger.store).length = 0 then 0 else 1)).code = 1 ↔
            allRecords c'.ledger.store ≠ [] := by
        simp [Ending.code]
      refine ⟨fun _ => hcode, ?_, ?_⟩
      · rw [hcode, hstands]
        exact ⟨fun h _ => h, fun h => h hall⟩
      · rw [hcode, hstands]
        exact ⟨fun h _ => h.mpr, fun h => ⟨hkept, h hall⟩⟩
    · obtain ⟨e, rfl⟩ := hbad hall
      have hpaths : ∀ p ∈ reports, ∃ uri, Uri.ofPath p.1.toText = .ok uri := by
        intro p hp
        refine exists_uri_of_checkFolders hfolders ?_
        rw [← reportsOf?_folders hreports]
        exact List.mem_map_of_mem hp
      have herrors := haveErrors_of_not_enterable hpaths hall
      exact ⟨fun hall' => absurd hall' hall, iff_of_true rfl fun hall' => absurd hall' hall,
        iff_of_true (iff_of_true rfl herrors) fun hall' => absurd hall' hall⟩

/-! ### Nested folders -/

/-- A report of one error in `a.dps`, as it is written. -/
def oneErrorReport : Text.Bytes :=
  Text.encodeUtf8 ("\x7b\"errors\":[\x7b\"file\":\"a.dps\",\"line\":1,\"column\":0," ++
    "\"message\":\"bad\"\x7d]\x7d")

/-- A new run in which the first of two compiles leaves this report, and the second one none. -/
def oneErrorConsole : Console :=
  { world := { machine := {}, upcoming := [{ report := some oneErrorReport }, {}] } }

def innerFolder : Path := ⟨.slash, ["ws", "a"]⟩

def outerFolder : Path := ⟨.slash, ["ws"]⟩

/-- What is computed of the compiles of both folders, in both orders. -/
theorem oneErrorConsole_eq :
    ((reportsOf? .default [outerFolder, innerFolder] oneErrorConsole.world).map
        fun reports => reports.map fun p => (p.1, reportedUris p.1 p.2)) =
      some [(outerFolder, ["file:///ws/a.dps"]), (innerFolder, [])] ∧
    ((reportsOf? .default [innerFolder, outerFolder] oneErrorConsole.world).map
        fun reports => reports.map fun p => (reportNamesBareHost p.1 p.2, reportedUris p.1 p.2)) =
      some [(false, ["file:///ws/a/a.dps"]), (false, [])] ∧
    (oneErrorConsole.run [] [] (.compile ["/ws/a", "/ws"] none)).2 = .exit 0 := by
  decide +kernel

/-- The inner folder does not hold the document that the outer one reports. -/
theorem outer_then_inner_exit_one :
    ∃ reports, reportsOf? .default [outerFolder, innerFolder] oneErrorConsole.world = some reports ∧
      reports.HaveErrors ∧
      (oneErrorConsole.run [] [] (.compile ["/ws", "/ws/a"] none)).2.code = 1 := by
  obtain ⟨reports, hreports, hmap⟩ := Option.map_eq_some_iff.mp oneErrorConsole_eq.1
  obtain ⟨p, rest, rfl, hp, hrest⟩ := List.map_eq_cons_iff.mp hmap
  obtain ⟨q, rest, rfl, hq, hrest⟩ := List.map_eq_cons_iff.mp hrest
  obtain rfl := List.map_eq_nil_iff.mp hrest
  obtain ⟨_, hnamed⟩ := Prod.mk.inj hp
  obtain ⟨hinner, _⟩ := Prod.mk.inj hq
  have hkeep : Reports.Keep [p, q] "file:///ws/a.dps" := by
    refine ⟨[], p, [q], rfl, by simp [hnamed], ?_⟩
    rw [List.forall_mem_singleton, hinner]
    decide +kernel
  refine ⟨[p, q], hreports, hkeep.haveErrors, ?_⟩
  have hfolders : Console.checkFolders ["/ws", "/ws/a"] = .ok [outerFolder, innerFolder] := rfl
  obtain ⟨c₀, hconfigured⟩ : ∃ c₀, oneErrorConsole.configured [] none = .ok (.default, c₀) :=
    ⟨_, rfl⟩
  rcases hcompiled : compileAll .default (.disk []) [outerFolder, innerFolder]
    oneErrorConsole.world {} with ⟨w', t, result⟩
  rcases hrun : oneErrorConsole.run [] [] (.compile ["/ws", "/ws/a"] none) with ⟨c', ending⟩
  obtain ⟨-, -, hconsole⟩ := exit_one_iff_kept hreports hcompiled
  obtain ⟨-, hcode, -⟩ := hconsole rfl rfl hfolders hconfigured hrun
  exact hcode.mpr fun _ => ⟨_, hkeep⟩

/-- The outer folder holds all that the inner one reports: its own report, which is none, hides the
error. All folders and entries have uris. -/
theorem inner_then_outer_exit_zero :
    ∃ reports, reportsOf? .default [innerFolder, outerFolder] oneErrorConsole.world = some reports ∧
      reports.HaveErrors ∧ (∀ p ∈ reports, reportNamesBareHost p.1 p.2 = false) ∧
      (oneErrorConsole.run [] [] (.compile ["/ws/a", "/ws"] none)).2 = .exit 0 := by
  obtain ⟨reports, hreports, hmap⟩ := Option.map_eq_some_iff.mp oneErrorConsole_eq.2.1
  obtain ⟨p, rest, rfl, hp, hrest⟩ := List.map_eq_cons_iff.mp hmap
  obtain ⟨q, rest, rfl, hq, hrest⟩ := List.map_eq_cons_iff.mp hrest
  obtain rfl := List.map_eq_nil_iff.mp hrest
  obtain ⟨hgood, hnamed⟩ := Prod.mk.inj hp
  obtain ⟨hgood', _⟩ := Prod.mk.inj hq
  have herrors : Reports.HaveErrors [p, q] :=
    Reports.haveErrors_of_mem List.mem_cons_self (hnamed ▸ List.mem_singleton_self _)
  refine ⟨[p, q], hreports, herrors, ?_, oneErrorConsole_eq.2.2⟩
  simp [hgood, hgood']

end Datapack.CommandLine
