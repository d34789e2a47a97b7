import Datapack.CommandLine.Compile
import Datapack.Proofs.Machine.BatchPasses
import Datapack.Proofs.Simulation.Worlds

/-! Compiles outside of an editor. All folders are compiled before the first report is entered, and
there is exactly one report for each folder, in the order of the folders. -/

namespace Datapack.CommandLine

open Diagnostic Machine Simulation

/-! ### One report for each folder -/

/-- A task that compiles all of some folders: it waits with the reports so far, or with nothing to
compile, it failed, or it has answered. -/
inductive RunsAll (folders : List Path) : Machine.Task → Prop where
  | idle {runner : RunnerId} (none : folders = []) : RunsAll folders (.emptyTurn runner)
  | works {w : Work} {task : Machine.Task} {done : Reports} (works : Works w task)
      (stage : w.stage = .all done)
      (split : done.reverse.map (·.1) ++ w.folder :: w.rest = folders) : RunsAll folders task
  | failed (e : Fault) : RunsAll folders (.finished (.error e))
  | answered (reports : Reports) (folders_eq : reports.map (·.1) = folders) :
      RunsAll folders (.finished (.ok (.reports reports)))

/-- All that may become of the task. -/
def Keeps (folders : List Path) (t : TaskId) (s s' : State) : Prop :=
  s'.tasks = s.tasks ∨ ∃ task, s'.tasks = s.tasks.set t task ∧ RunsAll folders task

section Task

variable {folders : List Path} {s s' : State} {t : TaskId} {w : Work} {done : Reports}

theorem Keeps.of_aside {s'' : State} (h : Keeps folders t s' s'') (haside : State.Aside s s') :
    Keeps folders t s s'' := by
  rwa [Keeps, haside.tasks] at h

theorem keeps_setTask {task : Machine.Task} (h : RunsAll folders task) :
    Keeps folders t s (s.setTask t task) :=
  .inr ⟨task, rfl, h⟩

theorem keeps_failWork (hstage : w.stage = .all done) (e : Fault) :
    Keeps folders t s (s.failWork t w e) := by
  rw [State.failWork, hstage]
  exact .inr ⟨_, rfl, .failed e⟩

/-- A folder that gives no report has an empty place among the reports. -/
theorem runFolders_all (s : State) (t : TaskId) (runner : RunnerId) (done : Reports) (owned : Bool)
    {rest : List Path} (hsplit : done.reverse.map (·.1) ++ rest = folders) :
    s.runners.length ≤ runner ∧
        (s.runFolders t runner (.all done) owned rest).tasks = s.tasks ∨
      ∃ task, (s.runFolders t runner (.all done) owned rest).tasks = s.tasks.set t task ∧
        RunsAll folders task := by
  induction rest generalizing s done owned with
  | nil => exact .inr ⟨_, rfl, .answered _ (by simpa using hsplit)⟩
  | cons folder rest ih =>
      have hbegins := State.runFolders_cons s t runner (.all done) owned folder rest
      generalize s.runFolders t runner (.all done) owned (folder :: rest) = s' at hbegins
      cases hbegins with
      | lost haside hnone => exact .inl ⟨List.getElem?_eq_none_iff.mp hnone, haside.tasks⟩
      | turn haside => exact .inr ⟨_, by rw [State.setTask, haside.tasks], .works .turn rfl hsplit⟩
      | launch haside =>
          exact .inr ⟨_, by rw [State.setTask, haside.tasks], .works .launching rfl hsplit⟩
      | fail haside e => exact .inr ⟨_, by rw [← haside.tasks]; rfl, .failed e⟩
      | skip haside =>
          rw [State.compiled_all _ t rfl, ← haside.tasks, ← haside.runners]
          exact ih _ _ true (by simpa using hsplit)

theorem keeps_compiled (hstage : w.stage = .all done)
    (hsplit : done.reverse.map (·.1) ++ w.folder :: w.rest = folders) (report : Option Report) :
    Keeps folders t s (s.compiled t w report) := by
  rw [State.compiled_all s t hstage]
  exact (runFolders_all _ _ _ _ true (by simpa using hsplit)).imp And.right id

theorem keeps_compileFailed (hstage : w.stage = .all done)
    (hsplit : done.reverse.map (·.1) ++ w.folder :: w.rest = folders) (e : Fault) :
    Keeps folders t s (s.compileFailed t w e) := by
  unfold State.compileFailed
  rcases s.invocationFailed_cases w.folder e with ⟨entry, hfailed⟩ | hfailed
  · simp only [hfailed]
    exact (keeps_compiled hstage hsplit none).of_aside (.emit s entry)
  · simp only [hfailed]
    exact keeps_failWork hstage e

/-- What becomes of the task when an event concerns it. -/
theorem keeps_step {task : Machine.Task} (htask : s.tasks[t]? = some task) (hworks : Works w task)
    (hstage : w.stage = .all done)
    (hsplit : done.reverse.map (·.1) ++ w.folder :: w.rest = folders) {e : Event}
    (he : e.task? = some t) : Keeps folders t s (s.step e) := by
  have hcontinues := State.continues_step htask hworks he
  generalize s.reportTaken? e = taken, s.step e = s' at hcontinues ⊢
  cases hcontinues with
  | stays => exact .inl rfl
  | runs hrunner =>
      rw [hstage]
      exact (runFolders_all _ _ _ _ true hsplit).imp And.right id
  | waits haside hworks => exact (keeps_setTask (.works hworks hstage hsplit)).of_aside haside
  | fails e => exact keeps_compileFailed hstage hsplit e
  | stops haside e => exact (keeps_failWork hstage e).of_aside haside
  | takes haside report => exact (keeps_compiled hstage hsplit report).of_aside haside

/-- Whatever happens, the reports stay in the order of the folders. -/
theorem RunsAll.step {task : Machine.Task} (h : RunsAll folders task)
    (htask : s.tasks[t]? = some task) (e : Event) :
    ∃ task', (s.step e).tasks[t]? = some task' ∧ RunsAll folders task' := by
  cases h with
  | @idle runner hnone =>
      have ht := (List.getElem?_eq_some_iff.mp htask).1
      by_cases he : e.task? = some t
      · have hstep : s.step e = s ∨
            s.step e = (s.releaseRunner runner).finish t (.ok (.reports [])) := by
          cases e <;> cases he <;> simp only [State.step, State.proceed, State.exitSeen,
            State.timeout, htask, true_or]
          split
          · exact .inr rfl
          · exact .inl rfl
        rcases hstep with hstep | hstep <;> rw [hstep]
        · exact ⟨_, htask, .idle hnone⟩
        · exact ⟨_, List.getElem?_set_self ht, .answered [] hnone.symm⟩
      · exact ⟨_, by rw [State.step_other ht he, htask], .idle hnone⟩
  | failed e' => exact ⟨_, State.step_finished htask e, .failed e'⟩
  | answered reports hfolders => exact ⟨_, State.step_finished htask e, .answered reports hfolders⟩
  | works hworks hstage hsplit =>
      have ht := (List.getElem?_eq_some_iff.mp htask).1
      by_cases he : e.task? = some t
      · rcases keeps_step htask hworks hstage hsplit he with htasks | ⟨task', htasks, htask'⟩
        · exact ⟨task, by rw [htasks, htask], .works hworks hstage hsplit⟩
        · exact ⟨task', by simp [htasks, ht], htask'⟩
      · exact ⟨task, by rw [State.step_other ht he, htask], .works hworks hstage hsplit⟩

theorem RunsAll.advances {task : Machine.Task} (h : RunsAll folders task)
    (htask : s.tasks[t]? = some task) (hadvances : Relation.ReflTransGen Advance s s') :
    ∃ task', s'.tasks[t]? = some task' ∧ RunsAll folders task' := by
  induction hadvances with
  | refl => exact ⟨task, htask, h⟩
  | tail _ hadvance ih =>
      obtain ⟨task', htask', h'⟩ := ih
      cases hadvance with
      | step e => exact h'.step htask' e
      | edit f => exact ⟨task', htask', h'⟩

theorem runsAll_call {runner : RunnerId} (hrunner : runner < s.runners.length)
    (folders : List Path) :
    ∃ task, (s.call (.runAll runner folders)).tasks[s.tasks.length]? = some task ∧
      RunsAll folders task := by
  simp only [State.call]
  generalize hs1 : State.modifyRunner _ runner _ = s1
  have htasks : s1.tasks = s.tasks ++ [.finished (.ok .nothing)] := by rw [← hs1]; rfl
  have hset (task : Machine.Task) :
      (s1.tasks.set s.tasks.length task)[s.tasks.length]? = some task := by simp [htasks]
  split
  · have hlength : s1.runners.length = s.runners.length := by
      rw [← hs1]
      exact List.length_modify _ _ _
    rcases runFolders_all s1 s.tasks.length runner [] true (List.nil_append folders) with
      ⟨hle, _⟩ | ⟨task, htask, hruns⟩
    · rw [hlength] at hle
      exact absurd hrunner (Nat.not_lt.mpr hle)
    · exact ⟨task, by rw [htask, hset], hruns⟩
  · cases folders with
    | nil => exact ⟨_, hset _, .idle rfl⟩
    | cons folder rest => exact ⟨_, hset _, .works .turn rfl rfl⟩

end Task

/-- The answer to a request to compile folders has a report for each of them. -/
theorem request_runAll {w w' : World} {runner : RunnerId} {folders : List Path} {reports : Reports}
    (hrunner : runner < w.machine.runners.length)
    (h : w.request (.runAll runner folders) = (w', .ok (.reports reports))) :
    reports.map (·.1) = folders := by
  obtain ⟨hadvances, hanswer⟩ := World.request_answered h (by simp)
  obtain ⟨task, htask, hruns⟩ := runsAll_call hrunner folders
  obtain ⟨task', htask', hruns'⟩ := hruns.advances htask hadvances
  rw [hanswer, Option.some.injEq] at htask'
  subst htask'
  cases hruns' with
  | answered _ hfolders => exact hfolders
  | works hworks => cases hworks

/-! ### Compiles with one ledger -/

/-- The reports that a compile of folders enters, if they were all compiled. -/
def reportsOf? (settings : Settings) (folders : List Path) (w : World) : Option Reports :=
  let runner := w.machine.runners.length
  let machine := { w.machine with runners := w.machine.runners ++ [(⟨settings, {}⟩ : Runner)] }
  match { w with machine }.request (.runAll runner folders) with
  | (_, .ok (.reports reports)) => some reports
  | _ => none

/-- Compiles of the same folders, one after the other with one ledger, and their reports. The world
may change in between. -/
inductive Compiles (settings : Settings) (docs : Documents) (folders : List Path) :
    List Reports → Ledger → Prop where
  | start : Compiles settings docs folders [] {}
  | again {passes : List Reports} {reports : Reports} {t t' : Ledger} {w w' : World}
      (before : Compiles settings docs folders passes t)
      (taken : reportsOf? settings folders w = some reports)
      (compiled : compileAll settings docs folders w t = (w', t', .ok ())) :
      Compiles settings docs folders (passes ++ [reports]) t'

/-- One more compile, in a world where it goes well. -/
theorem Compiles.next {settings : Settings} {docs : Documents} {folders : List Path}
    {passes : List Reports} {t : Ledger} (h : Compiles settings docs folders passes t) {w : World}
    (htaken : (reportsOf? settings folders w).isSome)
    (hok : (compileAll settings docs folders w t).2.2.isOk) :
    Compiles settings docs folders (passes ++ [(reportsOf? settings folders w).getD []])
      (compileAll settings docs folders w t).2.1 := by
  obtain ⟨reports, hreports⟩ := Option.isSome_iff_exists.mp htaken
  rcases hcompile : compileAll settings docs folders w t with ⟨w', t', result⟩
  rw [hcompile] at hok
  cases result with
  | error e => cases hok
  | ok _ =>
      rw [hreports]
      exact .again h hreports hcompile

theorem reportsOf?_folders {settings : Settings} {folders : List Path} {w : World}
    {reports : Reports} (h : reportsOf? settings folders w = some reports) :
    reports.map (·.1) = folders := by
  unfold reportsOf? at h
  simp only at h
  split at h
  · next hrequest =>
      rw [← Option.some.inj h]
      exact request_runAll (by simp) hrequest
  · cases h

theorem compileAll_eq {settings : Settings} {folders : List Path} {w : World}
    {reports : Reports} (h : reportsOf? settings folders w = some reports) (docs : Documents)
    (t : Ledger) :
    ∃ w', compileAll settings docs folders w t = enterReports docs w' t reports := by
  unfold reportsOf? at h
  simp only at h
  split at h
  · next w' reports' hrequest =>
      obtain rfl := Option.some.inj h
      exact ⟨w', by simp only [compileAll, hrequest]⟩
  · cases h

/-! ### One report after the other -/

section

variable {docs : Documents} {w : World} {t : Ledger} {p : Path × Option Report}

theorem enterReports_cons_of_error (reports : Reports) {e : Fault}
    (h : t.reportPlan docs w.machine.files p.1 p.2 = .error e) :
    enterReports docs w t (p :: reports) = (w, t, .error e) := by
  have hrun := Ledger.run_enterReport_of_error .accepting h
  simp [enterReports, hrun, State.emitAll]

/-- The reports that follow are entered in the same files. -/
theorem enterReports_cons_of_ok {c : Change (Ordered (List Record))}
    (h : t.reportPlan docs w.machine.files p.1 p.2 = .ok c) :
    ∃ w', w'.machine.files = w.machine.files ∧ ∀ reports,
      enterReports docs w t (p :: reports) =
        enterReports docs w' ⟨(publications c.effects).foldl Store.note t.store, c.stream⟩
          reports := by
  have hrun := Ledger.run_enterReport_of_ok .accepting h fun _ _ => rfl
  refine ⟨{ w with machine := w.machine.emitAll c.effects }, ?_, fun reports => ?_⟩
  · rw [State.emitAll_eq]
  · simp only [enterReports, hrun]

end

/-- Reports that are all entered. -/
theorem underway_enterReports {docs : Documents} {folders finished : List Path}
    {earlier : List Reports} {current reports : Reports} {w w' : World} {t t' : Ledger}
    (hfolders : ∀ p ∈ reports, p.1 ∈ folders)
    (h : enterReports docs w t reports = (w', t', .ok ()))
    (hunderway : Underway folders finished earlier current t.store) :
    Underway folders (finished ++ reports.map (·.1)) earlier (current ++ reports) t'.store := by
  induction reports generalizing w t finished current with
  | nil =>
      obtain ⟨_, rfl, _⟩ := h
      simpa using hunderway
  | cons p reports ih =>
      obtain ⟨folder, report⟩ := p
      rw [List.forall_mem_cons] at hfolders
      unfold enterReports at h
      rcases hrun : (Ledger.enterReport docs w.machine.files .accepting folder report).run t with
        ⟨t1, effects, result⟩
      simp only [hrun] at h
      cases result with
      | error e => simp at h
      | ok grouped =>
          have hnext := hunderway.enterReport hfolders.1 hrun
          simpa using ih hfolders.2 h hnext

theorem Compiles.settled {settings : Settings} {docs : Documents} {folders : List Path}
    {passes : List Reports} {t : Ledger} (h : Compiles settings docs folders passes t) :
    Settled folders passes t.store := by
  induction h with
  | start => exact .start fun _ => rfl
  | @again passes reports t t' w w' _ htaken hcompiled ih =>
      have hfolders := reportsOf?_folders htaken
      obtain ⟨w1, hcompile⟩ := compileAll_eq htaken docs _
      rw [hcompile] at hcompiled
      have hmem : ∀ p ∈ reports, p.1 ∈ folders := by
        intro p hp
        rw [← hfolders]
        exact List.mem_map_of_mem hp
      have hunderway := underway_enterReports hmem hcompiled ih.next
      rw [List.nil_append, List.nil_append, hfolders] at hunderway
      exact hunderway.settled

end Datapack.CommandLine
