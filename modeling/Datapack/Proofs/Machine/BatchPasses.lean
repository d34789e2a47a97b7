import Datapack.Proofs.Ledger.Passes
import Datapack.Proofs.Machine.Alterations

/-! Passes of a session that compiles folders one at a time. A pass holds the compile lock from its
first folder to its last report, so the reports of two passes never mix, whatever else happens. -/

namespace Datapack.Machine

open Diagnostic

/-! ### The reports of a run -/

/-- The events of a session that only compiles: saves and requests to compile, and all that tasks,
processes and files do. -/
def Event.compiles : Event → Bool
  | call (.save _) => true
  | call .compile => true
  | call _ => false
  | _ => true

def Task.isFinished : Task → Bool
  | finished _ => true
  | _ => false

/-- Whether a task does not compile, and has not failed. -/
def Task.isSettled : Task → Bool
  | finished (.ok _) => true
  | compileTurn _ => true
  | _ => false

namespace State

/-- The report that an event takes: the one that is there for a folder when its process has
ended. -/
def reportTaken? (s : State) : Event → Option (Path × Option Report)
  | .exitSeen t =>
    match s.tasks[t]? with
    | some (.running p w) =>
      match s.processes[p]?, s.runners[w.runner]? with
      | some q, some r =>
        if q.isAlive then none
        else (s.takeReport r.settings w.folder).2.toOption.map fun report => (w.folder, report)
      | _, _ => none
    | _ => none
  | _ => none

/-- How many tasks have finished. -/
def finishedTasks (s : State) : Nat := s.tasks.countP (·.isFinished)

end State

/-- The reports of a session, pass by pass. -/
structure PassLog where
  ended : List Reports := []
  /-- The reports of the pass under way. -/
  current : Reports := []

/-- What an event adds to the reports. A pass ends when its task has finished. -/
def PassLog.after (log : PassLog) (s : State) (e : Event) : PassLog :=
  let current := log.current ++ (s.reportTaken? e).toList
  if s.finishedTasks < (s.step e).finishedTasks then ⟨log.ended ++ [current], []⟩
  else ⟨log.ended, current⟩

/-- The reports of a run, after those that are known already. -/
def State.passLog (s : State) (log : PassLog) : List Event → PassLog
  | [] => log
  | e :: events => (s.step e).passLog (log.after s e) events

/-! ### Tasks that compile -/

/-- A task that compiles a folder. -/
inductive Works (w : Work) : Task → Prop where
  | turn : Works w (.runnerTurn w)
  | launching : Works w (.runnerLaunching w)
  | running (p : ProcessId) : Works w (.running p w)
  | reaping (p : ProcessId) : Works w (.runnerReaping p w)

/-- What an event that concerns a task that compiles a folder can do, and the report it takes. -/
inductive Continues (s : State) (t : TaskId) (w : Work) :
    Option (Path × Option Report) → State → Prop where
  | stays : Continues s t w none s
  | runs (runner : w.runner < s.runners.length) :
      Continues s t w none (s.runFolders t w.runner w.stage true (w.folder :: w.rest))
  | waits {s' : State} {task : Task} (aside : State.Aside s s') (works : Works w task) :
      Continues s t w none (s'.setTask t task)
  | fails (e : Fault) : Continues s t w none (s.compileFailed t w e)
  | stops {s' : State} (aside : State.Aside s s') (e : Fault) :
      Continues s t w none (s'.failWork t w e)
  | takes {s' : State} (aside : State.Aside s s') (report : Option Report) :
      Continues s t w (some (w.folder, report)) (s'.compiled t w report)

namespace State

/-- The log does not matter for the report that is taken. -/
theorem takeReport_emitAll (s : State) (es : List Effect) (settings : Settings) (folder : Path) :
    ((s.emitAll es).takeReport settings folder).2 = (s.takeReport settings folder).2 := by
  rw [emitAll_eq]
  unfold takeReport
  simp only
  repeat' split
  all_goals rfl

theorem continues_oneShotExited {s : State} {p : ProcessId} {w : Work} {q : Process} {r : Runner}
    (hq : s.processes[p]? = some q) (hr : s.runners[w.runner]? = some r) (t : TaskId) :
    Continues s t w
      ((s.takeReport r.settings w.folder).2.toOption.map fun report => (w.folder, report))
      (s.oneShotExited t p w) := by
  have haside := (Aside.emitAll s (outputEntries q)).trans (.takeReport _ r.settings w.folder)
  rw [← takeReport_emitAll s (outputEntries q)]
  simp only [oneShotExited, hq, hr]
  generalize State.takeReport _ r.settings w.folder = taken at haside ⊢
  obtain ⟨s', result⟩ := taken
  cases result with
  | error e => exact .stops haside e
  | ok report => exact .takes haside report

theorem continues_step {s : State} {t : TaskId} {w : Work} {task : Task}
    (htask : s.tasks[t]? = some task) (hworks : Works w task) {e : Event}
    (he : e.task? = some t) : Continues s t w (s.reportTaken? e) (s.step e) := by
  cases hworks with
  | turn =>
      cases e <;> cases he <;>
        simp only [step, proceed, exitSeen, State.timeout, reportTaken?, htask]
      · split
        · next howner =>
            obtain ⟨r, hr, _⟩ := Option.bind_eq_some_iff.mp howner
            exact .runs (List.getElem?_eq_some_iff.mp hr).1
        · exact .stays
      all_goals exact .stays
  | launching =>
      cases e <;> cases he <;>
        simp only [step, proceed, exitSeen, State.timeout, reportTaken?, htask]
      · exact .stays
      · unfold oneShotLaunched
        split
        · exact .waits (.processes s _) (.running _)
        · exact .fails _
        · exact .stays
      all_goals exact .stays
  | running p =>
      cases e <;> cases he <;>
        simp only [step, proceed, exitSeen, State.timeout, reportTaken?, htask]
      · exact .stays
      · exact .stays
      · exact .stays
      · cases hq : s.processes[p]? with
        | none => simpa [isAlive, hq, oneShotExited] using .stays
        | some q =>
            cases hr : s.runners[w.runner]? with
            | none => simpa [isAlive, hq, hr, oneShotExited] using .stays
            | some r =>
                by_cases halive : q.isAlive
                · simpa [isAlive, hq, halive] using .stays
                · simp only [isAlive, hq, halive, Option.map_some, Option.getD_some,
                    Bool.false_eq_true, if_false]
                  exact continues_oneShotExited hq hr t
      · exact .waits (.emit s _) (.reaping p)
      · exact .fails _
  | reaping p =>
      cases e <;> cases he <;>
        simp only [step, proceed, exitSeen, State.timeout, reportTaken?, htask]
      · exact .stays
      · exact .stays
      · exact .stays
      · split
        · exact .stays
        · exact .fails _
      all_goals exact .stays

end State

/-! ### What a pass sees -/

/-- A session that compiles folders one at a time, be they the workspace's or its root, seen by its
tasks, its lock and what stands. -/
structure Compiling (folders : List Path) (s : State) (tasks : List Task) (lock : Lock)
    (store : Store) : Prop where
  tasks : s.tasks = tasks
  unsupervised : s.supervisors = []
  session : ∃ session runner, s.session = some session ∧ session.settings.mode = .batch ∧
    session.compiledFolders = .ok folders ∧ session.runner = some runner ∧
    runner < s.runners.length ∧ session.lock = lock ∧ session.ledger.store = store

/-- A task that does not compile. -/
inductive AtRest : Task → Prop where
  | finished (r : Except Fault Answer) : AtRest (.finished r)
  | save (uri : String) : AtRest (.compileTurn (.save uri))
  | compile : AtRest (.compileTurn .compile)

/-- How far a task gets with a pass: it waits in the middle of it, it has ended it, or it failed. -/
inductive Passing (folders : List Path) (earlier : List Reports) (current : Reports)
    (tasks : List Task) (lock : Lock) (t : TaskId) (s : State) : Prop where
  | waits {w : Work} {finished : List Path} {task : Task} {store : Store} (works : Works w task)
      (stage : w.stage = .pass) (split : finished ++ w.folder :: w.rest = folders)
      (compiling : Compiling folders s (tasks.set t task) lock store)
      (underway : Underway folders finished earlier current store)
  | ends {store : Store}
      (compiling : Compiling folders s (tasks.set t (.finished (.ok .nothing))) lock.release store)
      (underway : Underway folders folders earlier current store)
  | fails {e : Fault} {store : Store}
      (compiling : Compiling folders s (tasks.set t (.finished (.error e))) lock.release store)

section Passes

variable {folders : List Path} {s s' : State} {tasks : List Task} {lock : Lock} {store : Store}
  {earlier : List Reports} {current : Reports} {finished : List Path} {t : TaskId} {w : Work}

namespace Compiling

theorem aside (h : Compiling folders s tasks lock store) (haside : State.Aside s s') :
    Compiling folders s' tasks lock store := by
  refine ⟨haside.tasks.trans h.tasks, haside.supervisors.trans h.unsupervised, ?_⟩
  rw [haside.session, haside.runners]
  exact h.session

theorem setTask (h : Compiling folders s tasks lock store) (t : TaskId) (task : Task) :
    Compiling folders (s.setTask t task) (tasks.set t task) lock store :=
  ⟨congrArg (·.set t task) h.tasks, h.unsupervised, h.session⟩

theorem endPass (h : Compiling folders s tasks lock store) (t : TaskId)
    (r : Except Fault Answer) :
    Compiling folders (s.endPass t r) (tasks.set t (.finished r)) lock.release store := by
  obtain ⟨session, runner, hs, hmode, hfolders, hrunner, hlt, rfl, rfl⟩ := h.session
  refine ⟨congrArg (·.set t (.finished r)) h.tasks, h.unsupervised,
    { session with lock := session.lock.release }, runner, ?_, hmode, hfolders, hrunner, hlt, rfl,
    rfl⟩
  simp [State.endPass, State.modifySession, State.finish, State.setTask, hs]

/-- A report that is entered changes nothing but what stands. -/
theorem enterReport (h : Compiling folders s tasks lock store) (folder : Path)
    (report : Option Report) :
    ∃ store', Compiling folders (s.enterReport folder report).1 tasks lock store' ∧
      ((s.enterReport folder report).2 = .ok () → folder ∈ folders →
        ∀ {finished earlier current}, Underway folders finished earlier current store →
          Underway folders (finished ++ [folder]) earlier (current ++ [(folder, report)])
            store') := by
  obtain ⟨session, runner, hs, hmode, hfolders, hrunner, hlt, rfl, rfl⟩ := h.session
  rcases hrun : (Ledger.enterReport session.documents s.files session.publisher folder report).run
    session.ledger with ⟨ledger, effects, result⟩
  have hentered := State.edit_eq hs
    (fun q => Ledger.enterReport q.documents s.files q.publisher folder report) hrun
  rw [State.enterReport, hentered]
  refine ⟨ledger.store, ⟨h.tasks, h.unsupervised, { session with ledger }, runner, rfl, hmode,
    hfolders, hrunner, hlt, rfl, rfl⟩, ?_⟩
  intro hok hfolder finished earlier current hunderway
  cases result with
  | error e => simp [Except.map] at hok
  | ok grouped => exact hunderway.enterReport hfolder hrun

/-- A turn that is asked for is taken at once or queued for. -/
theorem acquire (h : Compiling folders s tasks lock store) (t : TaskId) :
    Compiling folders (s.modifySession fun q => { q with lock := q.lock.acquire t }) tasks
      (lock.acquire t) store := by
  obtain ⟨session, runner, hs, hmode, hfolders, hrunner, hlt, rfl, rfl⟩ := h.session
  refine ⟨h.tasks, h.unsupervised, { session with lock := session.lock.acquire t }, runner, ?_,
    hmode, hfolders, hrunner, hlt, rfl, rfl⟩
  simp [State.modifySession, hs]

theorem owner_eq (h : Compiling folders s tasks lock store) :
    (s.session.bind (·.lock.owner)) = lock.owner := by
  obtain ⟨session, runner, hs, _, _, _, _, rfl, _⟩ := h.session
  simp [hs]

/-- Work that failed ends the pass. -/
theorem failWork (h : Compiling folders s tasks lock store) (hstage : w.stage = .pass) (e : Fault) :
    Passing folders earlier current tasks lock t (s.failWork t w e) := by
  have hends := (h.aside (.releaseRunner s w.runner)).endPass t (.error e)
  rw [State.failWork, hstage]
  exact .fails hends

/-- The report of a folder is entered and the folders after it are compiled, if this is known to go
well. -/
theorem compiled_of (h : Compiling folders s tasks lock store) (hstage : w.stage = .pass)
    (hsplit : finished ++ w.folder :: w.rest = folders)
    (hunderway : Underway folders finished earlier current store) {report : Option Report}
    {current' : Reports} (huris : current'.uris = current.uris ++ reportedUris w.folder report)
    (ih : ∀ {s' : State} {finished : List Path} {store : Store} {runner : RunnerId},
      Compiling folders s' tasks lock store → runner < s'.runners.length →
      finished ++ w.rest = folders → Underway folders finished earlier current' store →
      Passing folders earlier current' tasks lock t (s'.runFolders t runner .pass false w.rest)) :
    Passing folders earlier current' tasks lock t (s.compiled t w report) := by
  have hfolder : w.folder ∈ folders := by
    rw [← hsplit]
    simp
  obtain ⟨store', hentered, hnext⟩ :=
    (h.aside (.releaseRunner s w.runner)).enterReport w.folder report
  rw [State.compiled_pass s t hstage]
  generalize State.enterReport _ w.folder report = entered at hentered hnext ⊢
  obtain ⟨s', result⟩ := entered
  dsimp only at hentered
  cases result with
  | error e => exact .fails (hentered.endPass t (.error e))
  | ok _ =>
      obtain ⟨session, runner, hs, _, _, hrunner, hlt, _, _⟩ := hentered.session
      have hrest : finished ++ [w.folder] ++ w.rest = folders := by simpa using hsplit
      have hnow := (hnext rfl hfolder hunderway).congr
        (huris.trans (Reports.uris_concat current w.folder report).symm)
      simp only [hs, Option.bind_some, hrunner, Option.getD_some]
      exact ih hentered hlt hrest hnow

theorem runFolders (h : Compiling folders s tasks lock store) {runner : RunnerId}
    (hrunner : runner < s.runners.length) (owned : Bool) {rest : List Path}
    (hsplit : finished ++ rest = folders)
    (hunderway : Underway folders finished earlier current store) :
    Passing folders earlier current tasks lock t (s.runFolders t runner .pass owned rest) := by
  induction rest generalizing s store runner owned finished with
  | nil =>
      rw [List.append_nil] at hsplit
      subst finished
      exact .ends (h.endPass t (.ok .nothing)) hunderway
  | cons folder rest ih =>
      have hbegins := State.runFolders_cons s t runner .pass owned folder rest
      generalize s.runFolders t runner .pass owned (folder :: rest) = s' at hbegins
      cases hbegins with
      | lost _ hnone =>
          rw [List.getElem?_eq_none_iff] at hnone
          exact absurd hrunner (Nat.not_lt.mpr hnone)
      | turn haside => exact .waits .turn rfl hsplit ((h.aside haside).setTask t _) hunderway
      | launch haside => exact .waits .launching rfl hsplit ((h.aside haside).setTask t _) hunderway
      | fail haside e => exact (h.aside haside).failWork rfl e
      | skip haside =>
          -- No report names nothing, so the reports so far are still those that were taken.
          refine (h.aside haside).compiled_of rfl hsplit hunderway (by simp) ?_
          intro s' finished store runner hc hr hs hu
          exact ih hc hr false hs hu

theorem compiled (h : Compiling folders s tasks lock store) (hstage : w.stage = .pass)
    (hsplit : finished ++ w.folder :: w.rest = folders)
    (hunderway : Underway folders finished earlier current store) (report : Option Report)
    {current' : Reports} (huris : current'.uris = current.uris ++ reportedUris w.folder report) :
    Passing folders earlier current' tasks lock t (s.compiled t w report) :=
  h.compiled_of hstage hsplit hunderway huris fun hc hr hs hu => hc.runFolders hr false hs hu

theorem compileFailed (h : Compiling folders s tasks lock store) (hstage : w.stage = .pass)
    (hsplit : finished ++ w.folder :: w.rest = folders)
    (hunderway : Underway folders finished earlier current store) (e : Fault) :
    Passing folders earlier current tasks lock t (s.compileFailed t w e) := by
  unfold State.compileFailed
  rcases s.invocationFailed_cases w.folder e with ⟨entry, hfailed⟩ | hfailed
  · simp only [hfailed]
    exact (h.aside (.emit s entry)).compiled hstage hsplit hunderway none (by simp)
  · simp only [hfailed]
    exact h.failWork hstage e

/-- A pass begins with its first folder. -/
theorem runJob (h : Compiling folders s tasks lock store) {job : Job}
    (hjob : AtRest (.compileTurn job)) (hunderway : Underway folders [] earlier current store) :
    Passing folders earlier current tasks lock t (s.runJob t job) := by
  obtain ⟨session, runner, hs, hmode, hfolders, hrunner, hlt, _, _⟩ := h.session
  have hpass : s.runJob t job = s.runFolders t runner .pass false folders := by
    cases hjob <;> simp [State.runJob, State.savePass, State.compilePass, State.oneShotPass, hs,
      hmode, hfolders, hrunner]
  rw [hpass]
  exact h.runFolders hlt false (List.nil_append folders) hunderway

end Compiling

/-! ### One event -/

/-- A session that compiles is between two passes, in the middle of one, or one of them failed. -/
inductive Phase (folders : List Path) (s : State) (log : PassLog) : Prop where
  | rest {lock : Lock} {store : Store} (compiling : Compiling folders s s.tasks lock store)
      (resting : ∀ (t : TaskId) task, s.tasks[t]? = some task → AtRest task)
      (current : log.current = []) (settled : Settled folders log.ended store)
  | pass {lock : Lock} {store : Store} {t : TaskId} {task : Task} {w : Work}
      {finished : List Path} (compiling : Compiling folders s s.tasks lock store)
      (owner : lock.owner = some t) (working : s.tasks[t]? = some task) (works : Works w task)
      (stage : w.stage = .pass) (split : finished ++ w.folder :: w.rest = folders)
      (others : ∀ (t' : TaskId) task', t' ≠ t → s.tasks[t']? = some task' → AtRest task')
      (underway : Underway folders finished log.ended log.current store)
  | failed {t : TaskId} {e : Fault} (failure : s.tasks[t]? = some (.finished (.error e)))

theorem Works.not_finished {task : Task} (h : Works w task) : task.isFinished = false := by
  cases h <;> rfl

/-- An event that changes no task and takes no report adds nothing. -/
theorem PassLog.after_of_tasks {log : PassLog} {e : Event} (htasks : (s.step e).tasks = s.tasks)
    (htaken : s.reportTaken? e = none) : log.after s e = log := by
  simp [after, State.finishedTasks, htasks, htaken]

theorem Phase.aside {log : PassLog} {e : Event} (h : Phase folders s log)
    (haside : State.Aside s (s.step e)) (htaken : s.reportTaken? e = none) :
    Phase folders (s.step e) (log.after s e) := by
  have htasks := haside.tasks
  rw [PassLog.after_of_tasks htasks htaken]
  cases h with
  | rest hc hresting hcurrent hsettled =>
      have hc' := hc.aside haside
      rw [← htasks] at hc' hresting
      exact .rest hc' hresting hcurrent hsettled
  | pass hc howner hworking hworks hstage hsplit hothers hunderway =>
      have hc' := hc.aside haside
      rw [← htasks] at hc' hworking hothers
      exact .pass hc' howner hworking hworks hstage hsplit hothers hunderway
  | failed hfailure => exact .failed (htasks ▸ hfailure)

theorem countP_isFinished_set {task task' : Task} (htask : tasks[t]? = some task)
    (hunfinished : task.isFinished = false) :
    (tasks.set t task').countP (·.isFinished) =
      tasks.countP (·.isFinished) + if task'.isFinished then 1 else 0 := by
  obtain ⟨ht, hget⟩ := List.getElem?_eq_some_iff.mp htask
  simp [List.countP_set, ht, hget, hunfinished]

/-- How far a task gets with a pass decides in which phase the session is. -/
theorem Passing.phase {log : PassLog} {e : Event}
    (h : Passing folders log.ended (log.current ++ (s.reportTaken? e).toList) tasks lock t
      (s.step e))
    (ht : t < tasks.length) (howner : lock.owner = some t)
    (hothers : ∀ t' task', t' ≠ t → tasks[t']? = some task' → AtRest task')
    (hcount : ∀ task, (tasks.set t task).countP (·.isFinished) =
      s.finishedTasks + if task.isFinished then 1 else 0) :
    Phase folders (s.step e) (log.after s e) := by
  have hset (task : Task) : (tasks.set t task)[t]? = some task := by simp [ht]
  have hkept {task : Task} (t' : TaskId) (task' : Task) (hne : t' ≠ t)
      (htask' : (tasks.set t task)[t']? = some task') : AtRest task' := by
    rw [List.getElem?_set_ne hne.symm] at htask'
    exact hothers t' task' hne htask'
  cases h with
  | waits hworks hstage hsplit hc hunderway =>
      have hsame : (s.step e).finishedTasks = s.finishedTasks := by
        rw [State.finishedTasks, hc.tasks, hcount, hworks.not_finished]
        rfl
      have hlog : log.after s e = ⟨log.ended, log.current ++ (s.reportTaken? e).toList⟩ := by
        simp [PassLog.after, hsame]
      have htasks := hc.tasks
      rw [hlog]
      rw [← htasks] at hc
      exact .pass hc howner (by rw [htasks, hset]) hworks hstage hsplit
        (by rw [htasks]; exact hkept) hunderway
  | ends hc hunderway =>
      have hmore : (s.step e).finishedTasks = s.finishedTasks + 1 := by
        rw [State.finishedTasks, hc.tasks, hcount]
        rfl
      have hlog : log.after s e =
          ⟨log.ended ++ [log.current ++ (s.reportTaken? e).toList], []⟩ := by
        simp [PassLog.after, hmore]
      have htasks := hc.tasks
      rw [hlog]
      rw [← htasks] at hc
      refine .rest hc ?_ rfl hunderway.settled
      intro t' task' htask'
      rw [htasks] at htask'
      by_cases hne : t' = t
      · rw [hne, hset] at htask'
        exact Option.some.inj htask' ▸ .finished _
      · exact hkept t' task' hne htask'
  | fails hc => exact .failed (by rw [hc.tasks, hset])

/-- An event that concerns a task at rest does nothing, unless it gives the task its turn. -/
theorem State.step_of_atRest {e : Event} (he : e.task? = some t)
    (h : ∀ task, s.tasks[t]? = some task → AtRest task) :
    s.reportTaken? e = none ∧
      (s.step e = s ∨ ∃ job, s.tasks[t]? = some (.compileTurn job) ∧
        (s.session.bind (·.lock.owner)) = some t ∧ s.step e = s.runJob t job) := by
  cases htask : s.tasks[t]? with
  | none =>
      cases e <;> cases he <;>
        simp [reportTaken?, step, proceed, exitSeen, State.timeout, htask]
  | some task =>
      have hrests := h task htask
      by_cases howner : (s.session.bind (·.lock.owner)) = some t <;>
        cases e <;> cases he <;> cases hrests <;>
          simp [reportTaken?, step, proceed, exitSeen, State.timeout, htask, howner]

theorem State.read_of_unsupervised (h : s.supervisors = []) (p : ProcessId) (name : OutputName) :
    s.read p name = s := by
  rcases s.read_cases p name with ⟨hsame, _⟩ | ⟨q, sup, item, rest, hdue⟩
  · exact hsame
  · simpa [h] using hdue.supervisor

theorem State.noticeExit_of_unsupervised (h : s.supervisors = []) (p : ProcessId) :
    s.noticeExit p = s := by
  rcases s.noticeExit_cases p with ⟨hsame, _⟩ | ⟨q, code, i, sup, hdue⟩
  · exact hsame
  · simpa [h] using hdue.supervisor

/-- Without supervisors, processes and files are no concern of the tasks. -/
theorem State.step_aside {e : Event} (he : e.task? = none) (hcall : ∀ request, e ≠ .call request)
    (h : s.supervisors = []) : s.reportTaken? e = none ∧ Aside s (s.step e) := by
  cases e with
  | call request => exact absurd rfl (hcall request)
  | read p name => exact ⟨rfl, by rw [step, read_of_unsupervised h]; exact .refl s⟩
  | notice p => exact ⟨rfl, by rw [step, noticeExit_of_unsupervised h]; exact .refl s⟩
  | output p name bytes =>
      refine ⟨rfl, ?_⟩
      rw [step]
      split
      · exact .processes s _
      · exact .refl s
  | exit p code =>
      refine ⟨rfl, ?_⟩
      rw [step]
      split
      · exact .processes s _
      · exact .refl s
  | breakOutput p name => exact ⟨rfl, .processes s _⟩
  | writeFile path bytes =>
      refine ⟨rfl, ?_⟩
      rw [step]
      split
      · exact ⟨rfl, rfl, rfl, rfl⟩
      · exact .refl s
  | _ => cases he

/-- An event that concerns the task of a pass lets it go on, or does nothing. -/
theorem Compiling.step_of_works (h : Compiling folders s tasks lock store) {task : Task}
    (htask : s.tasks[t]? = some task) (hworks : Works w task) (hstage : w.stage = .pass)
    (hsplit : finished ++ w.folder :: w.rest = folders)
    (hunderway : Underway folders finished earlier current store) {e : Event}
    (he : e.task? = some t) :
    (s.step e = s ∧ s.reportTaken? e = none) ∨
      Passing folders earlier (current ++ (s.reportTaken? e).toList) tasks lock t (s.step e) := by
  have hcontinues := State.continues_step htask hworks he
  generalize s.reportTaken? e = taken, s.step e = s' at hcontinues ⊢
  cases hcontinues with
  | stays => exact .inl ⟨rfl, rfl⟩
  | runs hrunner =>
      rw [hstage, Option.toList_none, List.append_nil]
      exact .inr (h.runFolders hrunner true hsplit hunderway)
  | waits haside hworks =>
      rw [Option.toList_none, List.append_nil]
      exact .inr (.waits hworks hstage hsplit ((h.aside haside).setTask t _) hunderway)
  | fails e =>
      rw [Option.toList_none, List.append_nil]
      exact .inr (h.compileFailed hstage hsplit hunderway e)
  | stops haside e => exact .inr ((h.aside haside).failWork hstage e)
  | takes haside report =>
      exact .inr ((h.aside haside).compiled hstage hsplit hunderway report
        (Reports.uris_concat current w.folder report))

/-- A new task takes its turn at once, or queues for it. -/
theorem Compiling.call (h : Compiling folders s s.tasks lock store) {e : Event}
    (hcompiles : e.compiles) {request : Request} (he : e = .call request) :
    ∃ job, AtRest (.compileTurn job) ∧ ∃ s',
      Compiling folders s' (s.tasks ++ [.finished (.ok .nothing)]) (lock.acquire s.tasks.length)
        store ∧
      s.step e = if (lock.acquire s.tasks.length).owner = some s.tasks.length then
        s'.runJob s.tasks.length job else s'.setTask s.tasks.length (.compileTurn job) := by
  have hnew : Compiling folders { s with tasks := s.tasks ++ [.finished (.ok .nothing)] }
      (s.tasks ++ [.finished (.ok .nothing)]) lock store := ⟨rfl, h.unsupervised, h.session⟩
  have hturn := hnew.acquire s.tasks.length
  have howner := hturn.owner_eq
  subst he
  cases request with
  | save uri => exact ⟨.save uri, .save uri, _, hturn, by rw [← howner]; rfl⟩
  | compile => exact ⟨.compile, .compile, _, hturn, by rw [← howner]; rfl⟩
  | _ => cases hcompiles

/-- A task that was added is the only new one. -/
theorem eq_or_of_getElem?_concat {task task' : Task} {t' : TaskId}
    (h : (tasks ++ [task])[t']? = some task') :
    tasks[t']? = some task' ∨ t' = tasks.length ∧ task' = task := by
  rw [List.getElem?_append] at h
  split at h
  · exact .inl h
  · next hge =>
      have hzero : t' - tasks.length = 0 := Nat.lt_one_iff.mp (List.getElem?_eq_some_iff.mp h).1
      rw [hzero] at h
      exact .inr ⟨Nat.le_antisymm (Nat.le_of_sub_eq_zero hzero) (Nat.le_of_not_lt hge),
        (Option.some.inj h).symm⟩

/-- A request whose turn it is not queues, and nothing else changes. -/
theorem Compiling.queue (h : Compiling folders s s.tasks lock store) {e : Event}
    (hcompiles : e.compiles) {request : Request} (he : e = .call request)
    (hwaits : (lock.acquire s.tasks.length).owner ≠ some s.tasks.length) (log : PassLog) :
    ∃ job, AtRest (.compileTurn job) ∧ (s.step e).tasks = s.tasks ++ [.compileTurn job] ∧
      Compiling folders (s.step e) (s.step e).tasks (lock.acquire s.tasks.length) store ∧
      log.after s e = log := by
  obtain ⟨job, hjob, s', hc, hstep⟩ := h.call hcompiles he
  rw [if_neg hwaits] at hstep
  have hqueued := hc.setTask s.tasks.length (.compileTurn job)
  have hset : (s.tasks ++ [Task.finished (.ok .nothing)]).set s.tasks.length (.compileTurn job) =
      s.tasks ++ [.compileTurn job] := by simp
  rw [← hstep, hset] at hqueued
  have htasks := hqueued.tasks
  have htaken : s.reportTaken? e = none := by
    rw [he]
    rfl
  refine ⟨job, hjob, htasks, htasks ▸ hqueued, ?_⟩
  simp [PassLog.after, State.finishedTasks, htasks, htaken, Task.isFinished]

theorem Phase.call {log : PassLog} (h : Phase folders s log) {e : Event}
    (hcompiles : e.compiles) {request : Request} (he : e = .call request) :
    Phase folders (s.step e) (log.after s e) := by
  cases h with
  | failed hfailure => exact .failed (State.step_finished hfailure e)
  | @rest lock store hc hresting hcurrent hsettled =>
      by_cases howner : (lock.acquire s.tasks.length).owner = some s.tasks.length
      · obtain ⟨job, hjob, s', hc', hstep⟩ := hc.call hcompiles he
        rw [if_pos howner] at hstep
        have htaken : s.reportTaken? e = none := by
          rw [he]
          rfl
        have hunderway :
            Underway folders [] log.ended (log.current ++ (s.reportTaken? e).toList) _ :=
          hsettled.next.congr (by rw [hcurrent, htaken]; rfl)
        have hpassing := hc'.runJob hjob hunderway (t := s.tasks.length)
        rw [← hstep] at hpassing
        refine hpassing.phase (by simp) howner ?_ ?_
        · intro t' task' _ htask'
          rcases eq_or_of_getElem?_concat htask' with htask' | ⟨_, rfl⟩
          · exact hresting t' task' htask'
          · exact .finished _
        · intro task
          simp [List.countP_append, State.finishedTasks, List.countP_singleton]
      · obtain ⟨job, hjob, htasks, hqueued, hlog⟩ := hc.queue hcompiles he howner log
        rw [hlog]
        refine .rest hqueued ?_ hcurrent hsettled
        intro t' task' htask'
        rw [htasks] at htask'
        rcases eq_or_of_getElem?_concat htask' with htask' | ⟨_, rfl⟩
        · exact hresting t' task' htask'
        · exact hjob
  | @pass lock store t task w finished hc howner hworking hworks hstage hsplit hothers hunderway =>
      have ht : t < s.tasks.length := (List.getElem?_eq_some_iff.mp hworking).1
      have howner' : (lock.acquire s.tasks.length).owner = some t := by
        simp [Lock.acquire, howner]
      have hwaits : (lock.acquire s.tasks.length).owner ≠ some s.tasks.length := by
        rw [howner', ne_eq, Option.some.injEq]
        exact Nat.ne_of_lt ht
      obtain ⟨job, hjob, htasks, hqueued, hlog⟩ := hc.queue hcompiles he hwaits log
      rw [hlog]
      refine .pass hqueued howner' ?_ hworks hstage hsplit ?_ hunderway
      · rw [htasks, List.getElem?_append_left ht, hworking]
      · intro t' task' hne' htask'
        rw [htasks] at htask'
        rcases eq_or_of_getElem?_concat htask' with htask' | ⟨_, rfl⟩
        · exact hothers t' task' hne' htask'
        · exact hjob

/-- An event that concerns a task: one at rest may begin its pass, one that compiles goes on. -/
theorem Phase.proceed {log : PassLog} (h : Phase folders s log) {e : Event}
    (he : e.task? = some t) : Phase folders (s.step e) (log.after s e) := by
  have hstay (hstep : s.step e = s) (htaken : s.reportTaken? e = none) :
      Phase folders (s.step e) (log.after s e) :=
    h.aside (by rw [hstep]; exact .refl s) htaken
  cases h with
  | failed hfailure => exact .failed (State.step_finished hfailure e)
  | rest hc hresting hcurrent hsettled =>
      obtain ⟨htaken, hstep | ⟨job, htask, howner, hstep⟩⟩ := State.step_of_atRest he (hresting t)
      · exact hstay hstep htaken
      · have hunderway :
            Underway folders [] log.ended (log.current ++ (s.reportTaken? e).toList) _ :=
          hsettled.next.congr (by rw [hcurrent, htaken]; rfl)
        have hpassing := hc.runJob (hresting t _ htask) hunderway (t := t)
        rw [← hstep] at hpassing
        refine hpassing.phase (List.getElem?_eq_some_iff.mp htask).1 (hc.owner_eq ▸ howner) ?_ ?_
        · intro t' task' _ htask'
          exact hresting t' task' htask'
        · intro task
          exact countP_isFinished_set htask rfl
  | @pass lock store t₀ task w finished hc howner hworking hworks hstage hsplit hothers hunderway =>
      by_cases heq : t = t₀
      · subst heq
        rcases hc.step_of_works hworking hworks hstage hsplit hunderway he with
          ⟨hstep, htaken⟩ | hpassing
        · exact hstay hstep htaken
        · refine hpassing.phase (List.getElem?_eq_some_iff.mp hworking).1 howner hothers ?_
          intro task
          exact countP_isFinished_set hworking hworks.not_finished
      · obtain ⟨htaken, hstep | ⟨job, _, hturn, _⟩⟩ :=
          State.step_of_atRest he fun task => hothers t task heq
        · exact hstay hstep htaken
        · -- The lock is with the task that compiles.
          rw [hc.owner_eq, howner, Option.some.injEq] at hturn
          exact absurd hturn.symm heq

/-- Every event of a session that compiles keeps to the phases. -/
theorem Phase.step {log : PassLog} (h : Phase folders s log) {e : Event}
    (hcompiles : e.compiles) : Phase folders (s.step e) (log.after s e) := by
  by_cases hcall : ∃ request, e = .call request
  · obtain ⟨request, he⟩ := hcall
    exact h.call hcompiles he
  · cases he : e.task? with
    | some t => exact h.proceed he
    | none =>
        have hbeside (hs : s.supervisors = []) :=
          State.step_aside he (fun request heq => hcall ⟨request, heq⟩) hs
        have hphase := h
        cases h with
        | failed hfailure => exact .failed (State.step_finished hfailure e)
        | rest hc =>
            obtain ⟨htaken, haside⟩ := hbeside hc.unsupervised
            exact hphase.aside haside htaken
        | pass hc =>
            obtain ⟨htaken, haside⟩ := hbeside hc.unsupervised
            exact hphase.aside haside htaken

theorem Phase.run {log : PassLog} (h : Phase folders s log)
    {events : List Event} (hcompile : ∀ e ∈ events, e.compiles) :
    Phase folders (s.run events) (s.passLog log events) := by
  induction events generalizing s log with
  | nil => exact h
  | cons e events ih =>
      rw [List.forall_mem_cons] at hcompile
      exact ih (h.step hcompile.1) hcompile.2

/-! ### Runs -/

/-- A session that compiles folders one at a time, before its first pass: nothing stands, and no
task compiles. -/
structure Ready (folders : List Path) (s : State) : Prop where
  compiling : ∃ lock store, Compiling folders s s.tasks lock store ∧ ∀ u, store.get u = []
  resting : ∀ task ∈ s.tasks, AtRest task

/-- What stands in a session. -/
def State.standing (s : State) : Store := (s.session.map (·.ledger.store)).getD []

/-- Between passes, what stands is what whole passes have left. -/
theorem Ready.settled (h : Ready folders s) {events : List Event}
    (hcompile : ∀ e ∈ events, e.compiles)
    (hsettled : ∀ task ∈ (s.run events).tasks, task.isSettled) :
    Settled folders (s.passLog {} events).ended (s.run events).standing := by
  obtain ⟨lock, store, hc, hempty⟩ := h.compiling
  have hstart : Phase folders s {} := by
    refine .rest hc ?_ rfl (.start hempty)
    intro t task htask
    exact h.resting task (List.mem_of_getElem? htask)
  cases hstart.run hcompile with
  | rest hc' _ _ hpasses =>
      obtain ⟨session, runner, hs, _, _, _, _, _, rfl⟩ := hc'.session
      simpa [State.standing, hs] using hpasses
  | pass _ _ hworking hworks =>
      have hcalm := hsettled _ (List.mem_of_getElem? hworking)
      cases hworks <;> cases hcalm
  | failed hfailure => cases hsettled _ (List.mem_of_getElem? hfailure)

/-- A session that was started is ready. -/
theorem ready_started {session : Session} (hmode : session.settings.mode = .batch)
    {root : Option Path} (hfolders : { session with root }.compiledFolders = .ok folders)
    (hempty : ∀ u, session.ledger.store.get u = []) (files : FileTree) :
    Ready folders (State.run { session := some session, files } [.call (.start root)]) := by
  have hstarted : State.run { session := some session, files } [.call (.start root)] =
      { runners := [⟨session.settings, {}⟩]
        tasks := [.finished (.ok .nothing)]
        session := some { session with root, runner := some 0 }
        files
        trace := #[.info "Using one-shot compiler invocations"] } := by
    simp [State.run, State.step, State.call, State.startSession, hmode, State.modifySession,
      State.emit, State.finish, State.setTask]
  rw [hstarted]
  refine ⟨⟨session.lock, session.ledger.store, ⟨rfl, rfl, _, 0, rfl, hmode, hfolders, rfl, ?_, rfl,
    rfl⟩, hempty⟩, ?_⟩
  · exact Nat.zero_lt_one
  · intro task htask
    rw [List.mem_singleton.mp htask]
    exact .finished _

end Passes

end Datapack.Machine
