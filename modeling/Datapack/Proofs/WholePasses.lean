import Datapack.Proofs.CommandLine.Compiles

/-! Whole passes over the same folders, in a session and on the command line. -/

namespace Datapack

open Diagnostic Machine Simulation CommandLine Text

/-- After each of a number of passes over the same folders, be it compiles with one ledger or passes
of a session, what stands is named by a report of that pass, except for documents that lie in none
of the folders and were named by a report of an earlier pass. -/
theorem fresh_after_pass_iff (folders : List Path) (u : String) :
    (∀ {settings : Settings} {docs : Documents} {earlier : List Reports} {pass : Reports}
        {t : Ledger}, Compiles settings docs folders (earlier ++ [pass]) t →
      ((t.store.get u ≠ [] → u ∈ pass.uris) ↔
        (∃ f ∈ folders, inFolder u f) ∨ u ∈ pass.uris ∨ ∀ p ∈ earlier, u ∉ p.uris)) ∧
    ∀ {s : State} {events : List Event} {earlier : List Reports} {pass : Reports},
      Ready folders s → (∀ e ∈ events, e.compiles) →
      (∀ task ∈ (s.run events).tasks, task.isSettled) →
      (s.passLog {} events).ended = earlier ++ [pass] →
      (((s.run events).standing.get u ≠ [] → u ∈ pass.uris) ↔
        (∃ f ∈ folders, inFolder u f) ∨ u ∈ pass.uris ∨ ∀ p ∈ earlier, u ∉ p.uris) := by
  refine ⟨?_, ?_⟩
  · intro settings docs earlier pass t hcompiles
    exact hcompiles.settled.fresh_iff u
  · intro s events earlier pass hready hcompile hsettled hpasses
    have hstands := hready.settled hcompile hsettled
    rw [hpasses] at hstands
    exact hstands.fresh_iff u

/-! ### Two passes

The first report names a document in the folder and one outside of it. The second compile leaves no
report. -/

def packFolder : Path := Path.ofString "/ws"

def oneShotSettings : Settings := { Settings.default with mode := .batch }

/-- An error at the start of a file, as it is written in a report. -/
def writtenError (file : String) : Bytes :=
  encodeUtf8 "\x7b\"file\":\"" ++ encodeUtf8 file ++ encodeUtf8 "\",\"line\":1,\"column\":0," ++
    encodeUtf8 "\"message\":\"bad\"\x7d"

def strayReport : Bytes :=
  encodeUtf8 "\x7b\"errors\":[" ++ writtenError "a.dps" ++ encodeUtf8 "," ++
    writtenError "/lib/x.dps" ++ encodeUtf8 "]\x7d"

/-- A world in which the first compile leaves a report. -/
def reportedWorld : World := { machine := {}, upcoming := [{ report := some strayReport }] }

def firstCompile : World × Ledger × Except Fault Unit :=
  compileAll oneShotSettings (.disk [packFolder]) [packFolder] reportedWorld {}

def secondCompile : World × Ledger × Except Fault Unit :=
  compileAll oneShotSettings (.disk [packFolder]) [packFolder] firstCompile.1 firstCompile.2.1

def firstReports : Reports := (reportsOf? oneShotSettings [packFolder] reportedWorld).getD []

def secondReports : Reports := (reportsOf? oneShotSettings [packFolder] firstCompile.1).getD []

/-- What is computed of the two compiles. -/
theorem secondCompile_eq :
    ((reportsOf? oneShotSettings [packFolder] reportedWorld).isSome ∧ firstCompile.2.2.isOk) ∧
    ((reportsOf? oneShotSettings [packFolder] firstCompile.1).isSome ∧ secondCompile.2.2.isOk) ∧
    firstReports.uris = ["file:///ws/a.dps", "file:///lib/x.dps"] ∧ secondReports.uris = [] ∧
    secondCompile.2.1.store.get "file:///lib/x.dps" =
      [{ uri := "file:///lib/x.dps", line := 0, column := 0, message := "bad" }] := by
  decide +kernel

theorem compiles_twice :
    Compiles oneShotSettings (.disk [packFolder]) [packFolder] ([firstReports] ++ [secondReports])
      secondCompile.2.1 := by
  obtain ⟨⟨hreports, hok⟩, ⟨hreports', hok'⟩, _⟩ := secondCompile_eq
  have hfirst : Compiles oneShotSettings (.disk [packFolder]) [packFolder] [firstReports]
      firstCompile.2.1 := by
    rw [firstCompile] at hok ⊢
    rw [firstReports, ← List.nil_append [Option.getD _ _]]
    exact Compiles.start.next hreports hok
  rw [secondCompile] at hok' ⊢
  rw [secondReports]
  exact hfirst.next hreports' hok'

/-- A session without workspace folders, which compiles its root. -/
def startedState : State :=
  let session : Session :=
    { settings := oneShotSettings
      documents := .given [] []
      publisher := .accepting }
  State.run { session := some session } [.call (.start (some packFolder))]

/-- Two passes of a session, with the same reports. -/
def twoPassRun : List Event :=
  [.call .compile, .launched 1 (.ok ()), .writeFile oneShotSettings.reportPath strayReport,
   .exit 0 0, .exitSeen 1, .call (.save "file:///ws/a.dps"), .launched 2 (.ok ()), .exit 1 0,
   .exitSeen 2]

theorem ready_startedState : Ready [packFolder] startedState :=
  ready_started rfl rfl (fun _ => rfl) {}

/-- What is computed of the two passes. -/
theorem twoPassRun_eq :
    (startedState.passLog {} twoPassRun).ended.length = 2 ∧
    (startedState.passLog {} twoPassRun).ended.map Reports.uris =
      [["file:///ws/a.dps", "file:///lib/x.dps"], []] ∧
    (∀ e ∈ twoPassRun, e.compiles) ∧
    (∀ task ∈ (startedState.run twoPassRun).tasks, task.isSettled) ∧
    (startedState.run twoPassRun).standing.get "file:///lib/x.dps" =
      [{ uri := "file:///lib/x.dps", line := 0, column := 0, message := "bad" }] := by
  decide +kernel

theorem twoPassRun_ended :
    ∃ first second, (startedState.passLog {} twoPassRun).ended = [first] ++ [second] ∧
      first.uris = ["file:///ws/a.dps", "file:///lib/x.dps"] ∧ second.uris = [] := by
  obtain ⟨hlength, huris, _⟩ := twoPassRun_eq
  obtain ⟨first, second, hended⟩ := List.length_eq_two.mp hlength
  rw [hended] at huris
  simp only [List.map_cons, List.map_nil, List.cons.injEq, and_true] at huris
  exact ⟨first, second, hended, huris⟩

/-- The document in the folder is cleared by the second pass. -/
theorem cleared_by_second_pass :
    Compiles oneShotSettings (.disk [packFolder]) [packFolder] ([firstReports] ++ [secondReports])
      secondCompile.2.1 ∧
    "file:///ws/a.dps" ∈ firstReports.uris ∧ secondCompile.2.1.store.get "file:///ws/a.dps" = [] ∧
    Ready [packFolder] startedState ∧
    (startedState.run twoPassRun).standing.get "file:///ws/a.dps" = [] := by
  have hinside : ∃ f ∈ [packFolder], inFolder "file:///ws/a.dps" f := by decide +kernel
  obtain ⟨_, _, hfirst, hsecond, _⟩ := secondCompile_eq
  obtain ⟨_, _, hcompile, hsettled, _⟩ := twoPassRun_eq
  obtain ⟨first, second, hended, _, hnone⟩ := twoPassRun_ended
  obtain ⟨hcompiles, hsession⟩ :=
    fresh_after_pass_iff [packFolder] "file:///ws/a.dps"
  refine ⟨compiles_twice, by simp [hfirst], ?_, ready_startedState, ?_⟩
  · have hfresh := (hcompiles compiles_twice).mpr (.inl hinside)
    rw [hsecond] at hfresh
    exact of_not_not fun hne => List.not_mem_nil (hfresh hne)
  · have hfresh := (hsession ready_startedState hcompile hsettled hended).mpr (.inl hinside)
    rw [hnone] at hfresh
    exact of_not_not fun hne => List.not_mem_nil (hfresh hne)

/-- The document outside of the folder stands although no report of the second pass names it. -/
theorem stray_after_second_pass :
    Compiles oneShotSettings (.disk [packFolder]) [packFolder] ([firstReports] ++ [secondReports])
      secondCompile.2.1 ∧
    secondReports.uris = [] ∧
    secondCompile.2.1.store.get "file:///lib/x.dps" =
      [{ uri := "file:///lib/x.dps", line := 0, column := 0, message := "bad" }] ∧
    Ready [packFolder] startedState ∧
    (∃ first second, (startedState.passLog {} twoPassRun).ended = [first] ++ [second] ∧
      first.uris = ["file:///ws/a.dps", "file:///lib/x.dps"] ∧ second.uris = []) ∧
    (startedState.run twoPassRun).standing.get "file:///lib/x.dps" =
      [{ uri := "file:///lib/x.dps", line := 0, column := 0, message := "bad" }] := by
  obtain ⟨_, _, _, hsecond, hstands⟩ := secondCompile_eq
  obtain ⟨_, _, _, _, hstands'⟩ := twoPassRun_eq
  exact ⟨compiles_twice, hsecond, hstands, ready_startedState, twoPassRun_ended, hstands'⟩

end Datapack
