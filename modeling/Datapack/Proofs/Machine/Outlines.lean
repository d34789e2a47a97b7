import Datapack.Proofs.Machine.ResidentSteps

/-! Outlines of a session that keeps a compiler running: what decides where its tasks go. Each event
of a start, a restart, a close or a shutdown turns the outline before it into the one after it. -/

namespace Datapack

/-- The process that is told to end. -/
def Effect.signalled? : Effect → Option Nat
  | signal p _ => some p
  | _ => none

namespace Machine

open Diagnostic

/-- Whether a process is alive, and what became of its readers. -/
def Process.outline (q : Process) : Bool × Reader × Reader :=
  (q.isAlive, q.stdout.reader, q.stderr.reader)

structure Outline where
  root : Option Path := none
  handle : Option SupervisorId := none
  lock : Lock := {}
  /-- The process of each supervisor. -/
  compilers : List (Option ProcessId) := []
  processes : List (Bool × Reader × Reader) := []
  tasks : List Task := []
  /-- The processes that were told to end, in order. -/
  signalled : List ProcessId := []

namespace Outline

variable (o : Outline)

/-! What becomes of an outline. A request adds a task. -/

/-- A start launches a compiler, whatever there is already. -/
def start (root : Path) : Outline :=
  { o with
    root := some root
    compilers := o.compilers ++ [none]
    tasks := o.tasks ++ [.launching o.compilers.length .start] }

/-- A restart that finds no compiler launches one. -/
def restartVacant : Outline :=
  { o with
    lock := o.lock.acquire o.tasks.length
    compilers := o.compilers ++ [none]
    tasks := o.tasks ++ [.launching o.compilers.length .restart] }

/-- A restart asks the compiler that is there to end. -/
def restart (i : SupervisorId) (p : ProcessId) : Outline :=
  { o with
    lock := o.lock.acquire o.tasks.length
    tasks := o.tasks ++ [.exiting i p false .restart]
    signalled := o.signalled ++ [p] }

/-- A close asks the compiler to end, and does not wait for the lock. -/
def close (i : SupervisorId) (p : ProcessId) : Outline :=
  { o with
    tasks := o.tasks ++ [.exiting i p false .close]
    signalled := o.signalled ++ [p] }

/-- A shutdown without a compiler has nothing to kill. -/
def killVacant : Outline := { o with tasks := o.tasks ++ [.finished (.ok .nothing)] }

/-- A shutdown kills the compiler that the session has. -/
def kill (p : ProcessId) : Outline :=
  { o with
    handle := none
    tasks := o.tasks ++ [.finished (.ok .nothing)]
    signalled := o.signalled ++ [p] }

/-- The session takes the compiler whose process was created. -/
def adopt (i : SupervisorId) : Outline :=
  { o with
    handle := some i
    compilers := o.compilers.set i (some o.processes.length)
    processes := o.processes ++ [(true, .reading, .reading)] }

/-- A task finishes. -/
def finish (t : TaskId) (r : Except Fault Answer) : Outline :=
  { o with tasks := o.tasks.set t (.finished r) }

/-- A task that has the lock finishes. -/
def endPass (t : TaskId) (r : Except Fault Answer) : Outline :=
  { o with
    lock := o.lock.release
    tasks := o.tasks.set t (.finished r) }

def exit (p : ProcessId) (readers : Reader × Reader) : Outline :=
  { o with processes := o.processes.set p (false, readers) }

/-- A stop that notices the exit cancels the readers and waits for them. -/
def reap (t : TaskId) (i : SupervisorId) (p : ProcessId) (stage : StopStage) : Outline :=
  { o with
    processes := o.processes.set p (false, .cancelled, .cancelled)
    tasks := o.tasks.set t (.reaping i p stage) }

/-- The session lets go of its compiler. -/
def letGo (i : SupervisorId) : Outline :=
  { o with
    handle := none
    compilers := o.compilers.set i none }

/-- A compiler is launched by a supervisor of its own. -/
def ask (t : TaskId) (stage : LaunchStage) : Outline :=
  { o with
    compilers := o.compilers ++ [none]
    tasks := o.tasks.set t (.launching o.compilers.length stage) }

end Outline

/-- A session that keeps a compiler running, with all that its requests rely on. -/
structure Session.Keeps (q : Session) (root : Option Path) (handle : Option SupervisorId)
    (lock : Lock) : Prop where
  mode : q.settings.mode = .persistent
  root : q.root = root
  compiler : q.compiler = handle
  lock : q.lock = lock

/-- A state of which an outline tells the truth. No supervisor has lost its process on its own: it
tends the one it has. -/
structure Outlined (s : State) (o : Outline) : Prop where
  session : ∃ q, s.session = some q ∧ q.Keeps o.root o.handle o.lock
  compilers : s.supervisors.map (·.process) = o.compilers
  tended : s.supervisors.map (·.tended) = o.compilers
  processes : s.processes.map Process.outline = o.processes
  tasks : s.tasks = o.tasks
  signalled : s.trace.toList.filterMap Effect.signalled? = o.signalled

theorem map_modify_of_eq {α β : Type} (l : List α) (i : Nat) {f : α → α} {g : α → β}
    (h : ∀ a, g (f a) = g a) : (l.modify i f).map g = l.map g := by
  induction l generalizing i with
  | nil => simp
  | cons a l ih => cases i <;> simp [h, ih]

theorem map_modify_eq_set {α β : Type} (l : List α) (i : Nat) {f : α → α} {g : α → β} {b : β}
    (h : ∀ a, l[i]? = some a → g (f a) = b) : (l.modify i f).map g = (l.map g).set i b := by
  induction l generalizing i with
  | nil => simp
  | cons a l ih =>
      cases i with
      | zero => simp [h a rfl]
      | succ i => simp [ih i h]

namespace Outlined

variable {s : State} {o : Outline} {t : TaskId} {i : SupervisorId} {p : ProcessId} {root : Path}

/-! ### What an outline tells -/

theorem process (h : Outlined s o) {alive : Bool} {readers : Reader × Reader}
    (hp : o.processes[p]? = some (alive, readers)) :
    ∃ q, s.processes[p]? = some q ∧ q.isAlive = alive ∧
      (q.stdout.reader, q.stderr.reader) = readers := by
  rw [← h.processes, List.getElem?_map, Option.map_eq_some_iff] at hp
  obtain ⟨q, hq, houtline⟩ := hp
  exact ⟨q, hq, congrArg Prod.fst houtline, congrArg Prod.snd houtline⟩

theorem isAlive_eq (h : Outlined s o) {alive : Bool} {readers : Reader × Reader}
    (hp : o.processes[p]? = some (alive, readers)) : s.isAlive p = alive := by
  obtain ⟨q, hq, rfl, _⟩ := h.process hp
  simp [State.isAlive, hq]

theorem supervisor (h : Outlined s o) {p? : Option ProcessId} (hi : o.compilers[i]? = some p?) :
    ∃ sup, s.supervisors[i]? = some sup ∧ sup.process = p? ∧ sup.tended = p? := by
  have hprocess := hi
  have htended := hi
  rw [← h.compilers, List.getElem?_map, Option.map_eq_some_iff] at hprocess
  rw [← h.tended, List.getElem?_map, Option.map_eq_some_iff] at htended
  obtain ⟨sup, hsup, rfl⟩ := hprocess
  obtain ⟨sup', hsup', heq⟩ := htended
  obtain rfl : sup = sup' := Option.some.inj (hsup.symm.trans hsup')
  exact ⟨sup, hsup, rfl, heq⟩

theorem aliveProcess?_eq (h : Outlined s o) {readers : Reader × Reader}
    (hi : o.compilers[i]? = some (some p)) (hp : o.processes[p]? = some (true, readers)) :
    s.aliveProcess? i = some p := by
  obtain ⟨sup, hsup, hprocess, _⟩ := h.supervisor hi
  rw [State.aliveProcess?_eq_some_iff]
  exact ⟨by simp [State.processOf?, hsup, hprocess], h.isAlive_eq hp⟩

theorem handle_eq (h : Outlined s o) : s.handle = o.handle := by
  obtain ⟨q, hs, hq⟩ := h.session
  simp [State.handle, hs, hq.compiler]

theorem length_compilers (h : Outlined s o) : o.compilers.length = s.supervisors.length := by
  rw [← h.compilers, List.length_map]

theorem length_processes (h : Outlined s o) : o.processes.length = s.processes.length := by
  rw [← h.processes, List.length_map]

theorem finished (h : Outlined s o) (ho : o.tasks.all (·.isFinished) = true) :
    ∀ task ∈ s.tasks, task.isFinished :=
  h.tasks ▸ List.all_eq_true.mp ho

/-! ### The parts of an event -/

theorem emit (h : Outlined s o) {e : Effect} (he : e.signalled? = none) : Outlined (s.emit e) o :=
  ⟨h.session, h.compilers, h.tended, h.processes, h.tasks, by
    simp [State.emit, List.filterMap_append, h.signalled, he]⟩

theorem signal (h : Outlined s o) (p : ProcessId) (signal : Signal) :
    Outlined (s.emit (.signal p signal)) { o with signalled := o.signalled ++ [p] } :=
  ⟨h.session, h.compilers, h.tended, h.processes, h.tasks, by
    simp [State.emit, List.filterMap_append, h.signalled, Effect.signalled?]⟩

theorem setTask (h : Outlined s o) (t : TaskId) (task : Task) :
    Outlined (s.setTask t task) { o with tasks := o.tasks.set t task } :=
  ⟨h.session, h.compilers, h.tended, h.processes, congrArg (·.set t task) h.tasks, h.signalled⟩

theorem addTask (h : Outlined s o) (task : Task) :
    Outlined { s with tasks := s.tasks ++ [task] } { o with tasks := o.tasks ++ [task] } :=
  ⟨h.session, h.compilers, h.tended, h.processes, congrArg (· ++ [task]) h.tasks, h.signalled⟩

theorem modifySession (h : Outlined s o) {f : Session → Session} {root : Option Path}
    {handle : Option SupervisorId} {lock : Lock}
    (hf : ∀ q : Session, q.Keeps o.root o.handle o.lock → (f q).Keeps root handle lock) :
    Outlined (s.modifySession f) { o with root, handle, lock } := by
  obtain ⟨q, hs, hq⟩ := h.session
  refine ⟨⟨f q, ?_, hf q hq⟩, h.compilers, h.tended, h.processes, h.tasks, h.signalled⟩
  simp [State.modifySession, hs]

theorem setRoot (h : Outlined s o) (root : Option Path) :
    Outlined (s.modifySession fun q => { q with root }) { o with root } :=
  h.modifySession fun _ hq => ⟨hq.mode, rfl, hq.compiler, hq.lock⟩

theorem setHandle (h : Outlined s o) (handle : Option SupervisorId) :
    Outlined (s.setHandle handle) { o with handle } :=
  h.modifySession fun _ hq => ⟨hq.mode, hq.root, rfl, hq.lock⟩

theorem clearStream (h : Outlined s o) : Outlined s.clearStream o :=
  h.modifySession fun _ hq => ⟨hq.mode, hq.root, hq.compiler, hq.lock⟩

theorem acquire (h : Outlined s o) (t : TaskId) :
    Outlined (s.modifySession fun q => { q with lock := q.lock.acquire t })
      { o with lock := o.lock.acquire t } :=
  h.modifySession fun _ hq => ⟨hq.mode, hq.root, hq.compiler, congrArg (·.acquire t) hq.lock⟩

theorem endPass (h : Outlined s o) (t : TaskId) (r : Except Fault Answer) :
    Outlined (s.endPass t r) (o.endPass t r) := by
  have hreleased : Outlined (s.modifySession fun q => { q with lock := q.lock.release })
      { o with lock := o.lock.release } :=
    h.modifySession fun _ hq => ⟨hq.mode, hq.root, hq.compiler, congrArg Lock.release hq.lock⟩
  exact hreleased.setTask t _

theorem halt (h : Outlined s o) (i : SupervisorId) : Outlined (s.halt i) o := by
  refine ⟨h.session, ?_, ?_, h.processes, h.tasks, h.signalled⟩
  · rw [← h.compilers]
    exact map_modify_of_eq _ i fun _ => rfl
  · rw [← h.tended]
    exact map_modify_of_eq _ i fun _ => rfl

theorem detach (h : Outlined s o) (i : SupervisorId) :
    Outlined (s.detach i) { o with compilers := o.compilers.set i none } := by
  refine ⟨h.session, ?_, ?_, h.processes, h.tasks, h.signalled⟩
  · rw [← h.compilers]
    exact map_modify_eq_set _ i fun _ _ => rfl
  · rw [← h.tended]
    exact map_modify_eq_set _ i fun _ _ => rfl

theorem ask (h : Outlined s o) (t : TaskId) {sup : Supervisor} (hsup : sup.process = none)
    (htended : sup.tended = none) (stage : LaunchStage) :
    Outlined (s.ask t sup stage) (o.ask t stage) := by
  have hadded : Outlined { s with supervisors := s.supervisors ++ [sup] }
      { o with compilers := o.compilers ++ [none] } :=
    ⟨h.session, by simp [h.compilers, hsup], by simp [h.tended, htended], h.processes, h.tasks,
      h.signalled⟩
  rw [Outline.ask, h.length_compilers]
  exact (hadded.emit rfl).setTask t _

/-- A process that is created is alive and read from. -/
theorem adopt (h : Outlined s o) (i : SupervisorId) {q : Process}
    (hq : q.outline = (true, .reading, .reading)) :
    Outlined (s.adopt i q)
      { o with
        compilers := o.compilers.set i (some o.processes.length)
        processes := o.processes ++ [(true, .reading, .reading)] } := by
  have hlength := h.length_processes
  refine ⟨h.session, ?_, ?_, by simp [State.adopt, State.modifySupervisor, h.processes, hq],
    h.tasks, h.signalled⟩
  · rw [← h.compilers, hlength]
    exact map_modify_eq_set _ i fun _ _ => rfl
  · rw [← h.tended, hlength]
    exact map_modify_eq_set _ i fun _ _ => rfl

theorem modifyProcess (h : Outlined s o) {p : ProcessId} {q : Process}
    (hq : s.processes[p]? = some q) {f : Process → Process} {outline : Bool × Reader × Reader}
    (hf : (f q).outline = outline) :
    Outlined (s.modifyProcess p f) { o with processes := o.processes.set p outline } := by
  refine ⟨h.session, h.compilers, h.tended, ?_, h.tasks, h.signalled⟩
  rw [← h.processes]
  refine map_modify_eq_set _ p fun q' hq' => ?_
  rw [Option.some.inj (hq'.symm.trans hq), hf]

/-- A session with a root launches a compiler. -/
theorem launchCompiler (h : Outlined s o) (hroot : o.root = some root) (t : TaskId)
    (stage : LaunchStage) :
    Outlined (s.launchCompiler t stage) (o.ask t stage) := by
  obtain ⟨q, hs, hq⟩ := h.session
  rw [State.launchCompiler_eq hs (hq.root.trans hroot)]
  exact (h.emit rfl).ask t rfl rfl stage

/-- A compiler whose process is alive is told to end. -/
theorem beginStop (h : Outlined s o) {readers : Reader × Reader}
    (hi : o.compilers[i]? = some (some p)) (hp : o.processes[p]? = some (true, readers))
    (t : TaskId) (stage : StopStage) :
    Outlined (s.beginStop t i stage)
      { o with
        tasks := o.tasks.set t (.exiting i p false stage)
        signalled := o.signalled ++ [p] } := by
  obtain ⟨sup, hsup, hprocess, _⟩ := h.supervisor hi
  have halive : (s.halt i).isAlive p := h.isAlive_eq hp
  have hstop : s.beginStop t i stage =
      ((s.halt i).emit (.signal p .terminate)).setTask t (.exiting i p false stage) := by
    simp only [State.beginStop, hsup, Option.bind_some, hprocess]
    exact if_pos halive
  rw [hstop]
  exact ((h.halt i).signal p .terminate).setTask t _

/-- A supervisor lets go of its process, for a close or a restart. The session has no compiler any
more. -/
theorem letGo (h : Outlined s o) (i : SupervisorId) :
    Outlined (((s.detach i).emit (.info "Compiler stopped")).setHandle none).clearStream
      (o.letGo i) :=
  (((h.detach i).emit rfl).setHandle none).clearStream

/-! ### Requests -/

theorem set_concat {α : Type} (l : List α) (a b : α) : (l ++ [a]).set l.length b = l ++ [b] := by
  simp

theorem start (h : Outlined s o) (root : Path) :
    Outlined (s.step (.call (.start (some root)))) (o.start root) := by
  obtain ⟨q, hs, hq⟩ := h.session
  have hrooted := (h.addTask (.finished (.ok .nothing))).setRoot (some root)
  have hlaunched := hrooted.launchCompiler rfl o.tasks.length .start
  rw [Outline.ask, set_concat, ← h.tasks] at hlaunched
  have hstep : s.step (.call (.start (some root))) =
      (State.modifySession { s with tasks := s.tasks ++ [.finished (.ok .nothing)] }
        fun q => { q with root := some root }).launchCompiler s.tasks.length .start := by
    simp [State.step, State.call, State.startSession, hs, hq.mode]
  rw [hstep, Outline.start, ← h.tasks]
  exact hlaunched

/-- A restart that finds the lock free takes it. -/
theorem step_restart (h : Outlined s o) (hlock : o.lock = {}) :
    let t := s.tasks.length
    s.step (.call .restart) =
      (State.modifySession { s with tasks := s.tasks ++ [.finished (.ok .nothing)] }
        fun q => { q with lock := q.lock.acquire t }).runJob t .restart := by
  obtain ⟨q, hs, hq⟩ := h.session
  simp [State.step, State.call, State.beginRestart, State.beginJob, State.modifySession, hs,
    hq.mode, hq.lock, hlock, Lock.acquire]

theorem restart_vacant (h : Outlined s o) (hlock : o.lock = {}) (hhandle : o.handle = none)
    (hroot : o.root = some root) :
    Outlined (s.step (.call .restart)) o.restartVacant := by
  have hturn := (h.addTask (.finished (.ok .nothing))).acquire o.tasks.length
  have hlaunched := hturn.clearStream.launchCompiler hroot o.tasks.length .restart
  obtain ⟨q, hs, hq⟩ := hturn.session
  rw [Outline.ask, set_concat, ← h.tasks] at hlaunched
  rw [← h.tasks] at hs
  rw [h.step_restart hlock, Outline.restartVacant, ← h.tasks, State.runJob, hs]
  simp only [State.restartPass, hq.compiler.trans hhandle]
  exact hlaunched

theorem restart (h : Outlined s o) (hlock : o.lock = {}) (hhandle : o.handle = some i)
    {readers : Reader × Reader} (hi : o.compilers[i]? = some (some p))
    (hp : o.processes[p]? = some (true, readers)) :
    Outlined (s.step (.call .restart)) (o.restart i p) := by
  have hturn := (h.addTask (.finished (.ok .nothing))).acquire o.tasks.length
  have hstopped := hturn.beginStop hi hp o.tasks.length .restart
  obtain ⟨q, hs, hq⟩ := hturn.session
  rw [set_concat, ← h.tasks] at hstopped
  rw [← h.tasks] at hs
  rw [h.step_restart hlock, Outline.restart, ← h.tasks, State.runJob, hs]
  simp only [State.restartPass, hq.compiler.trans hhandle]
  exact hstopped

theorem close (h : Outlined s o) (hhandle : o.handle = some i) {readers : Reader × Reader}
    (hi : o.compilers[i]? = some (some p)) (hp : o.processes[p]? = some (true, readers)) :
    Outlined (s.step (.call .close)) (o.close i p) := by
  have hstopped := (h.addTask (.finished (.ok .nothing))).beginStop hi hp o.tasks.length .close
  have hcompiler : s.session.bind (·.compiler) = some i := h.handle_eq.trans hhandle
  rw [set_concat, ← h.tasks] at hstopped
  rw [Outline.close, ← h.tasks]
  simp only [State.step, State.call, State.closeSession, hcompiler]
  exact hstopped

theorem kill_vacant (h : Outlined s o) (hhandle : o.handle = none) :
    Outlined (s.step (.call .kill)) o.killVacant := by
  have hadded := h.addTask (.finished (.ok .nothing))
  have hdone := hadded.clearStream.setTask o.tasks.length (.finished (.ok .nothing))
  rw [set_concat, ← h.tasks, ← State.killSession_of_none (hadded.handle_eq.trans hhandle)] at hdone
  rw [Outline.killVacant, ← h.tasks]
  exact hdone

theorem kill (h : Outlined s o) (hhandle : o.handle = some i) {readers : Reader × Reader}
    (hi : o.compilers[i]? = some (some p)) (hp : o.processes[p]? = some (true, readers)) :
    Outlined (s.step (.call .kill)) (o.kill p) := by
  have hadded := h.addTask (.finished (.ok .nothing))
  have hkilled := (((hadded.halt i).signal p .kill).setHandle none).clearStream
  have hdone := hkilled.setTask o.tasks.length (.finished (.ok .nothing))
  have halive := hadded.aliveProcess?_eq hi hp
  rcases State.killSession_of_some (hadded.handle_eq.trans hhandle) with
    ⟨p', hp', hkill⟩ | ⟨hnone, _⟩
  · obtain rfl : p = p' := Option.some.inj (halive.symm.trans hp')
    rw [set_concat, ← h.tasks, ← hkill] at hdone
    rw [Outline.kill, ← h.tasks]
    exact hdone
  · rw [halive] at hnone
    cases hnone

/-! ### What processes and tasks do -/

theorem launched (h : Outlined s o) {stage : LaunchStage}
    (htask : o.tasks[t]? = some (.launching i stage)) (hstage : stage ≠ .direct)
    (hi : o.compilers[i]? = some none) :
    ∃ s', s.step (.launched t (.ok ())) = s'.closeLaunch t stage (.ok (.flag true)) ∧
      Outlined s' (o.adopt i) := by
  obtain ⟨sup, hsup, _⟩ := h.supervisor hi
  rw [← h.tasks] at htask
  let process : Process :=
    { launch := ⟨sup.settings.residentCommand sup.root.toText, none, sup.limit⟩
      owner := some i
      watched := true }
  have hadopted : Outlined (s.adopt i process) _ := h.adopt i rfl
  refine ⟨_, ?_, (hadopted.emit (e := .info ("Compiler started (pid " ++ State.shownPid ++ ")"))
    rfl).setHandle (some i)⟩
  simp only [State.step, htask, State.launched, hsup]
  cases stage with
  | direct => exact absurd rfl hstage
  | _ => rfl

theorem launched_start (h : Outlined s o) (htask : o.tasks[t]? = some (.launching i .start))
    (hi : o.compilers[i]? = some none) :
    Outlined (s.step (.launched t (.ok ()))) ((o.adopt i).finish t (.ok .nothing)) := by
  obtain ⟨s', hstep, hs'⟩ := h.launched htask nofun hi
  rw [hstep]
  exact hs'.setTask t _

/-- After a restart the lock goes on to the next. -/
theorem launched_restart (h : Outlined s o) (htask : o.tasks[t]? = some (.launching i .restart))
    (hi : o.compilers[i]? = some none) :
    Outlined (s.step (.launched t (.ok ()))) ((o.adopt i).endPass t (.ok (.flag true))) := by
  obtain ⟨s', hstep, hs'⟩ := h.launched htask nofun hi
  rw [hstep]
  exact hs'.endPass t _

theorem exit (h : Outlined s o) {readers : Reader × Reader}
    (hp : o.processes[p]? = some (true, readers)) (code : Int) :
    Outlined (s.step (.exit p code)) (o.exit p readers) := by
  obtain ⟨q, hq, _, rfl⟩ := h.process hp
  rw [State.step, if_pos (h.isAlive_eq hp)]
  exact h.modifyProcess hq rfl

theorem exitSeen_reading (h : Outlined s o) {killed : Bool} {stage : StopStage}
    (htask : o.tasks[t]? = some (.exiting i p killed stage))
    (hi : o.compilers[i]? = some (some p))
    (hp : o.processes[p]? = some (false, .reading, .reading)) :
    Outlined (s.step (.exitSeen t)) (o.reap t i p stage) := by
  obtain ⟨sup, hsup, _, htended⟩ := h.supervisor hi
  obtain ⟨q, hq, halive, hreaders⟩ := h.process hp
  obtain ⟨hstdout, hstderr⟩ := Prod.mk.inj hreaders
  have hcancelled : Outlined (s.cancelReaders p)
      { o with processes := o.processes.set p (false, .cancelled, .cancelled) } := by
    refine h.modifyProcess hq ?_
    rw [← halive]
    simp [Process.outline, hstdout, hstderr, Process.isAlive]
  have hstep : s.step (.exitSeen t) = (s.cancelReaders p).setTask t (.reaping i p stage) := by
    rw [← h.tasks] at htask
    simp [State.step, State.exitSeen, htask, h.isAlive_eq hp, State.beginReap, hsup, htended, hq,
      State.remains, hstdout]
  rw [hstep]
  exact hcancelled.setTask t _

/-- A restart whose cancelled readers are gone lets go of its compiler and launches a new one. -/
theorem proceed_restart (h : Outlined s o) (htask : o.tasks[t]? = some (.reaping i p .restart))
    (hp : o.processes[p]? = some (false, .cancelled, .cancelled)) (hroot : o.root = some root) :
    Outlined (s.step (.proceed t)) ((o.letGo i).ask t .restart) := by
  obtain ⟨q, hq, _, hreaders⟩ := h.process hp
  obtain ⟨hstdout, hstderr⟩ := Prod.mk.inj hreaders
  have hlaunched := (h.letGo i).launchCompiler hroot t .restart
  have hstep : s.step (.proceed t) =
      (((s.detach i).emit (.info "Compiler stopped")).setHandle none).clearStream.launchCompiler t
        .restart := by
    rw [← h.tasks] at htask
    have hsound : s.readerFailed p = false := by simp [State.readerFailed, hq, hstdout, hstderr]
    simp only [State.step, State.proceed, htask, State.endReap, hsound]
    rfl
  rwa [hstep]

/-- A close that finds that the readers are gone already lets go. -/
theorem exitSeen_close (h : Outlined s o) {killed : Bool} {readers : Reader × Reader}
    (htask : o.tasks[t]? = some (.exiting i p killed .close)) (hi : o.compilers[i]? = some none)
    (hp : o.processes[p]? = some (false, readers)) :
    Outlined (s.step (.exitSeen t)) ((o.letGo i).finish t (.ok .nothing)) := by
  obtain ⟨sup, hsup, _, htended⟩ := h.supervisor hi
  have hstep : s.step (.exitSeen t) =
      (((s.detach i).emit (.info "Compiler stopped")).setHandle none).clearStream.finish t
        (.ok .nothing) := by
    rw [← h.tasks] at htask
    simp only [State.step, State.exitSeen, htask, h.isAlive_eq hp, State.beginReap, hsup,
      Option.bind_some, htended]
    rfl
  rw [hstep]
  exact (h.letGo i).setTask t _

end Outlined

end Machine

end Datapack
