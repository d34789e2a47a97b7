import Datapack.Proofs.Machine.Tells

/-! What a task alters while it goes on. Whatever it does is made of a few kinds of changes: it moves
no other task, creates no process, hands nothing over, makes no reader read and streams nothing. -/

namespace Datapack.Machine

open Diagnostic

/-- The changes that a task makes, one after the other. -/
inductive Alters (t : TaskId) (s : State) : State → Prop where
  | refl : Alters t s s
  | emit {s' : State} (h : Alters t s s') {e : Effect} (he : e.hands = false) :
      Alters t s (s'.emit e)
  | setTask {s' : State} (h : Alters t s s') (task : Task) : Alters t s (s'.setTask t task)
  | modifySupervisor {s' : State} (h : Alters t s s') (i : SupervisorId)
      (f : Supervisor → Supervisor) : Alters t s (s'.modifySupervisor i f)
  | addSupervisor {s' : State} (h : Alters t s s') (sup : Supervisor) :
      Alters t s { s' with supervisors := s'.supervisors ++ [sup] }
  | modifyRunner {s' : State} (h : Alters t s s') (i : RunnerId) (f : Runner → Runner) :
      Alters t s (s'.modifyRunner i f)
  | addRunner {s' : State} (h : Alters t s s') (r : Runner) :
      Alters t s { s' with runners := s'.runners ++ [r] }
  | modifySession {s' : State} (h : Alters t s s') {f : Session → Session}
      (hf : ∀ q, s'.session = some q → q.ledger.stream = [] → (f q).ledger.stream = []) :
      Alters t s (s'.modifySession f)
  | cancelReaders {s' : State} (h : Alters t s s') (p : ProcessId) :
      Alters t s (s'.cancelReaders p)
  | files {s' : State} (h : Alters t s s') (files : FileTree) : Alters t s { s' with files }

namespace Alters

variable {t : TaskId} {s₀ s : State}

/-- A task alters no other task. -/
theorem tasks_other (h : Alters t s₀ s) {t' : TaskId} (hne : t' ≠ t) :
    s.tasks[t']? = s₀.tasks[t']? := by
  induction h with
  | refl => rfl
  | setTask _ task ih => rw [State.setTask_other hne, ih]
  | emit _ _ ih | modifySupervisor _ _ _ ih | addSupervisor _ _ ih | modifyRunner _ _ _ ih
  | addRunner _ _ ih | modifySession _ _ ih | cancelReaders _ _ ih | files _ _ ih => exact ih

/-- A task hands nothing over. -/
theorem trace_eq (h : Alters t s₀ s) :
    ∃ es : List Effect, s.trace = s₀.trace ++ es.toArray ∧ ∀ e ∈ es, e.hands = false := by
  induction h with
  | refl => exact ⟨[], by simp, by simp⟩
  | @emit s' _ e he ih =>
      obtain ⟨es, htrace, hes⟩ := ih
      refine ⟨es ++ [e], by simp [State.emit, htrace], ?_⟩
      rw [List.forall_mem_append]
      exact ⟨hes, List.forall_mem_singleton.mpr he⟩
  | setTask _ _ ih | modifySupervisor _ _ _ ih | addSupervisor _ _ ih | modifyRunner _ _ _ ih
  | addRunner _ _ ih | modifySession _ _ ih | cancelReaders _ _ ih | files _ _ ih => exact ih

section

variable (h : Alters t s₀ s)

include h

theorem emitAll {es : List Effect} (hes : ∀ e ∈ es, e.hands = false) :
    Alters t s₀ (s.emitAll es) := by
  induction es generalizing s with
  | nil => exact h
  | cons e es ih =>
      rw [List.forall_mem_cons] at hes
      exact ih (h.emit hes.1) hes.2

theorem finish (r : Except Fault Answer) : Alters t s₀ (s.finish t r) := h.setTask _

/-! ### Diagnostics -/

/-- An operation that does not bring a line leaves an empty stream empty. -/
theorem submit {op : Session → Operation} (hline : ∀ q, (op q).isLine = false) :
    Alters t s₀ (s.submit s.generation op).1 := by
  rcases s.submit_cases s.generation op with ⟨_, hs⟩ | ⟨q, ledger, es, result, hq, hrun, hs, hes⟩ <;>
    rw [hs]
  · exact h
  · rw [State.modifySessionOf_generation]
    refine emitAll (h.modifySession fun q' hq' hnone => ?_) fun e he => ?_
    · obtain rfl := Option.some.inj (hq'.symm.trans ((if_pos rfl).symm.trans hq))
      have hstream := (op q').stream_work_eq_nil (hline q') q'.publisher hnone
      rwa [hrun] at hstream
    · rcases hes e he with ⟨_, rfl⟩ | ⟨_, rfl⟩ <;> rfl

theorem clearStream : Alters t s₀ s.clearStream := h.modifySession fun _ _ _ => rfl

theorem openPass (extra : List String) : Alters t s₀ (s.openPass extra).1 :=
  s.openPass_eq_submit extra ▸ h.submit fun _ => rfl

theorem enterReport (folder : Path) (report : Option Report) :
    Alters t s₀ (s.enterReport folder report).1 :=
  s.enterReport_eq_submit folder report ▸ h.submit fun _ => rfl

theorem closeDocument (uri : String) : Alters t s₀ (s.closeDocument uri).1 :=
  s.closeDocument_eq_submit uri ▸ h.submit fun _ => rfl

/-! ### Launches and stops -/

theorem endPass (r : Except Fault Answer) : Alters t s₀ (s.endPass t r) := by
  refine finish (h.modifySession ?_) r
  exact fun _ _ hq => hq

theorem setHandle (compiler : Option SupervisorId) :
    Alters t s₀ (s.modifySession fun q => { q with compiler }) :=
  h.modifySession fun _ _ hq => hq

theorem beginLaunch (i : SupervisorId) (stage : LaunchStage) :
    Alters t s₀ (s.beginLaunch t i stage) := by
  unfold State.beginLaunch
  split
  · exact h
  · simp only
    split
    · exact h.finish _
    · exact (((h.emit rfl).modifySupervisor i _).emit rfl).setTask _

theorem closeLaunch (stage : LaunchStage) (r : Except Fault Answer) :
    Alters t s₀ (s.closeLaunch t stage r) := by
  unfold State.closeLaunch
  split
  · exact h.endPass _
  · exact h.finish _
  · exact h.finish _

theorem afterLaunch (i : SupervisorId) (stage : LaunchStage) (result : Except Fault Unit) :
    Alters t s₀ (s.afterLaunch t i stage result) := by
  unfold State.afterLaunch
  split
  · exact h.finish _
  · exact (h.setHandle _).closeLaunch stage _
  · exact ((h.emit rfl).setHandle _).closeLaunch stage _
  · exact h.closeLaunch stage _

theorem launchCompiler (stage : LaunchStage) : Alters t s₀ (s.launchCompiler t stage) := by
  unfold State.launchCompiler
  split
  · exact h.closeLaunch stage _
  · exact (h.addSupervisor _).beginLaunch _ stage

theorem afterStop (stage : StopStage) : Alters t s₀ (s.afterStop t stage) := by
  cases stage with
  | direct => exact h.finish _
  | close => exact (h.setHandle none).clearStream.finish _
  | restart => exact (h.setHandle none).clearStream.launchCompiler _

theorem failStop (stage : StopStage) (e : Fault) : Alters t s₀ (s.failStop t stage e) := by
  unfold State.failStop
  split
  · exact h.endPass _
  · exact h.finish _

theorem letGo (i : SupervisorId) (stage : StopStage) : Alters t s₀ (s.letGo t i stage) :=
  ((h.modifySupervisor i _).emit rfl).afterStop stage

theorem endReap (i : SupervisorId) (p : ProcessId) (stage : StopStage) :
    Alters t s₀ (s.endReap t i p stage) := by
  unfold State.endReap
  split
  · exact h.failStop stage _
  · exact h.letGo i stage

theorem beginReap (i : SupervisorId) (stage : StopStage) :
    Alters t s₀ (s.beginReap t i stage) := by
  unfold State.beginReap
  split
  · exact h.letGo i stage
  · split
    · exact (h.cancelReaders _).failStop stage _
    · exact (h.cancelReaders _).setTask _
    · split
      · exact h.setTask _
      · exact h.letGo i stage

theorem beginStop (i : SupervisorId) (stage : StopStage) :
    Alters t s₀ (s.beginStop t i stage) := by
  unfold State.beginStop
  split
  · exact h.afterStop stage
  · have hhalted := h.modifySupervisor i fun q => { q with stopping := true }
    simp only
    split
    · exact (hhalted.emit rfl).setTask _
    · exact hhalted.beginReap i stage

theorem killStubborn (i : SupervisorId) (p : ProcessId) (stage : StopStage) :
    Alters t s₀ (s.killStubborn t i p stage) :=
  ((h.emit rfl).emit rfl).setTask _

theorem killSupervised (i : SupervisorId) : Alters t s₀ (s.killSupervised i) := by
  unfold State.killSupervised
  split
  · exact h
  · exact (h.modifySupervisor i _).emit rfl

/-! ### Commands -/

theorem failSend (stage : SendStage) (e : Fault) : Alters t s₀ (s.failSend t stage e) := by
  unfold State.failSend
  split
  · exact h.finish _
  all_goals exact (h.emit rfl).endPass _

theorem writeCommand (i : SupervisorId) (command : String) (stage : SendStage) :
    Alters t s₀ (s.writeCommand t i command stage) := by
  unfold State.writeCommand
  split
  · exact (h.modifySupervisor i _).failSend stage _
  · exact ((h.emit rfl).emit rfl).setTask _

theorem beginSend (i : SupervisorId) (command : String) (stage : SendStage) :
    Alters t s₀ (s.beginSend t i command stage) := by
  have hacquired := h.modifySupervisor i fun q => { q with writeLock := q.writeLock.acquire t }
  unfold State.beginSend
  simp only
  split
  · exact hacquired.writeCommand i command stage
  · exact hacquired.setTask _

theorem afterSend (i : SupervisorId) (stage : SendStage) :
    Alters t s₀ (s.afterSend t i stage) := by
  unfold State.afterSend
  split
  · exact h.finish _
  · split
    · split
      · exact h.endPass _
      · exact h.beginSend i _ _
    · exact h.endPass _
  · exact (h.emit rfl).endPass _
  · exact h.beginSend i _ _
  · exact h.endPass _

theorem flushed (i : SupervisorId) (p : ProcessId) (command : String) (stage : SendStage)
    (flush : State.Flush) : Alters t s₀ (s.flushed t i p command stage flush) := by
  cases flush with
  | done => exact (h.modifySupervisor i _).afterSend i stage
  | closed => exact (h.modifySupervisor i _).failSend stage _
  | timeout => exact (((h.emit rfl).emit rfl).modifySupervisor i _).failSend stage _

/-! ### One-shot compiles -/

theorem beginCompile (settings : Settings) (folder : Path) :
    Alters t s₀ (s.beginCompile settings folder).1 := by
  unfold State.beginCompile
  simp only
  split
  · exact h.emit rfl
  · exact ((h.emit rfl).files _).emit rfl

theorem invocationFailed (folder : Path) (e : Fault) :
    Alters t s₀ (s.invocationFailed folder e).1 := by
  unfold State.invocationFailed
  split
  · exact h.emit rfl
  · exact h.emit rfl
  · exact h

theorem closeWork (stage : BatchStage) (r : Except Fault Answer) :
    Alters t s₀ (s.closeWork t stage r) := by
  unfold State.closeWork
  split
  · exact h.endPass r
  · exact h.finish r

theorem releaseRunner (i : RunnerId) : Alters t s₀ (s.releaseRunner i) := h.modifyRunner i _

theorem failWork (w : Work) (e : Fault) : Alters t s₀ (s.failWork t w e) :=
  (h.releaseRunner w.runner).closeWork w.stage _

/-- The report of a folder that ended, and the folders after it, if they are known to do. -/
theorem compiled_of {w : Work}
    (ih : ∀ {s : State}, Alters t s₀ s → ∀ runner stage owned,
      Alters t s₀ (s.runFolders t runner stage owned w.rest)) (report : Option Report) :
    Alters t s₀ (s.compiled t w report) := by
  cases hstage : w.stage with
  | single =>
      rw [State.compiled_single s t hstage]
      exact (h.releaseRunner _).finish _
  | all done =>
      rw [State.compiled_all s t hstage]
      exact ih h _ _ _
  | pass =>
      rw [State.compiled_pass s t hstage]
      have hentered := (h.releaseRunner w.runner).enterReport w.folder report
      split
      · next s' hs' =>
          rw [hs'] at hentered
          exact ih hentered _ _ _
      · next s' e hs' =>
          rw [hs'] at hentered
          exact hentered.endPass _

theorem runFolders (runner : RunnerId) (stage : BatchStage) (owned : Bool) (folders : List Path) :
    Alters t s₀ (s.runFolders t runner stage owned folders) := by
  induction folders generalizing s runner stage owned with
  | nil =>
      cases stage with
      | all done => exact (h.releaseRunner runner).finish _
      | single => exact h.finish _
      | pass => exact h.endPass _
  | cons folder rest ih =>
      rw [State.runFolders]
      generalize hs1 : (if owned then s
        else s.modifyRunner runner fun r => { r with lock := r.lock.acquire t }) = s1
      have hlocked : Alters t s₀ s1 := by
        rw [← hs1]
        split
        · exact h
        · exact h.modifyRunner _ _
      split
      · exact hlocked
      · next r _ =>
          split
          · exact hlocked.setTask _
          · have hbegun := hlocked.beginCompile r.settings folder
            split
            · next s2 hbegin =>
                rw [hbegin] at hbegun
                exact hbegun.setTask _
            · next s2 e hbegin =>
                rw [hbegin] at hbegun
                have hfailed := hbegun.invocationFailed folder e
                split
                · next s3 e' hs3 =>
                    rw [hs3] at hfailed
                    exact hfailed.failWork _ e'
                · next s3 report hs3 =>
                    rw [hs3] at hfailed
                    exact hfailed.compiled_of (w := ⟨runner, folder, rest, stage⟩) ih report

theorem compiled (w : Work) (report : Option Report) : Alters t s₀ (s.compiled t w report) :=
  h.compiled_of (fun hs runner stage owned => hs.runFolders runner stage owned _) report

theorem compileFailed (w : Work) (e : Fault) : Alters t s₀ (s.compileFailed t w e) := by
  have hfailed := h.invocationFailed w.folder e
  unfold State.compileFailed
  split
  · next s' report hs' =>
      rw [hs'] at hfailed
      exact hfailed.compiled w report
  · next s' e' hs' =>
      rw [hs'] at hfailed
      exact hfailed.failWork w e'

theorem takeReport (settings : Settings) (folder : Path) :
    Alters t s₀ (s.takeReport settings folder).1 := by
  unfold State.takeReport
  simp only
  repeat' split
  all_goals first | exact h.emit rfl | exact h

theorem oneShotExited (p : ProcessId) (w : Work) : Alters t s₀ (s.oneShotExited t p w) := by
  unfold State.oneShotExited
  split
  · next q r _ _ =>
      have hshown : ∀ e ∈ State.outputEntries q, e.hands = false := by
        intro e he
        obtain ⟨entry, rfl⟩ := State.log_of_mem_outputEntries e he
        rfl
      have htaken := (h.emitAll hshown).takeReport r.settings w.folder
      split
      · next s' report hs' =>
          rw [hs'] at htaken
          exact htaken.compiled w report
      · next s' e hs' =>
          rw [hs'] at htaken
          exact htaken.failWork w e
  · exact h

theorem oneShotTimeout (p : ProcessId) (w : Work) : Alters t s₀ (s.oneShotTimeout t p w) :=
  (h.emit rfl).setTask _

/-! ### Passes -/

theorem oneShotPass (session : Session) : Alters t s₀ (s.oneShotPass t session) := by
  unfold State.oneShotPass
  split
  · exact h.endPass _
  · split
    · exact h.endPass _
    · exact h.runFolders _ _ _ _

theorem commandPass (i : SupervisorId) (extra : List String) (stage : SendStage) :
    Alters t s₀ (s.commandPass t i extra stage) := by
  have hopened := h.openPass extra
  unfold State.commandPass
  split
  · next s' hs' =>
      rw [hs'] at hopened
      exact hopened.beginSend i _ stage
  · next s' e hs' =>
      rw [hs'] at hopened
      exact hopened.endPass _

theorem savePass (session : Session) (uri : String) :
    Alters t s₀ (s.savePass t session uri) := by
  unfold State.savePass
  split
  · exact h.oneShotPass session
  · split
    · exact (h.emit rfl).endPass _
    · exact (h.emit rfl).commandPass _ _ _

theorem compilePass (session : Session) : Alters t s₀ (s.compilePass t session) := by
  unfold State.compilePass
  split
  · exact h.oneShotPass session
  · split
    · exact h.commandPass _ _ _
    · exact (h.emit rfl).endPass _

theorem restartPass (session : Session) : Alters t s₀ (s.restartPass t session) := by
  unfold State.restartPass
  split
  · exact h.beginStop _ _
  · exact h.clearStream.launchCompiler _

theorem runJob (job : Job) : Alters t s₀ (s.runJob t job) := by
  unfold State.runJob
  split
  · exact h.finish _
  · cases job with
    | save uri => exact h.savePass _ uri
    | compile => exact h.compilePass _
    | restart => exact h.restartPass _

theorem beginJob (job : Job) : Alters t s₀ (s.beginJob t job) := by
  have hacquired : Alters t s₀ (s.modifySession fun q => { q with lock := q.lock.acquire t }) := by
    refine h.modifySession ?_
    exact fun _ _ hq => hq
  unfold State.beginJob
  simp only
  split
  · exact hacquired.runJob job
  · exact hacquired.setTask _

/-! ### The session -/

theorem startSession (root : Option Path) : Alters t s₀ (s.startSession t root) := by
  unfold State.startSession
  split
  · exact h.finish _
  · have hrooted : Alters t s₀ (s.modifySession fun q => { q with root }) := by
      refine h.modifySession ?_
      exact fun _ _ hq => hq
    simp only
    split
    · refine finish (emit (modifySession (hrooted.addRunner _) ?_) rfl) _
      exact fun _ _ hq => hq
    · exact (hrooted.emit rfl).finish _
    · exact hrooted.launchCompiler _

theorem beginRestart : Alters t s₀ (s.beginRestart t) := by
  unfold State.beginRestart
  split
  · exact h.finish _
  · split
    · exact h.finish _
    · exact h.beginJob _

theorem closeSession : Alters t s₀ (s.closeSession t) := by
  unfold State.closeSession
  split
  · exact h.beginStop _ _
  · exact h.clearStream.finish _

theorem killSession : Alters t s₀ s.killSession := by
  unfold State.killSession
  refine clearStream ?_
  split
  · exact (h.killSupervised _).setHandle none
  · exact h

end

end Alters

namespace State

/-! ### Requests -/

/-- A request becomes a new task, and all else is done by this task. -/
theorem call_alters (s : State) (request : Request) :
    Alters s.tasks.length { s with tasks := s.tasks ++ [.finished (.ok .nothing)] }
      (s.call request) := by
  unfold call
  generalize ({ s with tasks := s.tasks ++ [.finished (.ok .nothing)] } : State) = s₁
  have h := Alters.refl (t := s.tasks.length) (s := s₁)
  cases request with
  | start root => exact h.startSession root
  | spawn => exact h.launchCompiler _
  | restart => exact h.beginRestart
  | close => exact h.closeSession
  | kill => exact h.killSession.finish _
  | save uri => exact h.beginJob _
  | compile => exact h.beginJob _
  | gameStarted path =>
      refine Alters.finish ((h.emit rfl).modifySession ?_) _
      exact fun _ _ hq => hq
  | gameStopped =>
      refine Alters.finish ((h.emit rfl).modifySession ?_) _
      exact fun _ _ hq => hq
  | closeDocument uri =>
      have hclosed := h.closeDocument uri
      simp only
      split
      · next s' hs' =>
          rw [hs'] at hclosed
          exact hclosed.finish _
      · next s' e hs' =>
          rw [hs'] at hclosed
          exact hclosed.finish _
  | configure settings =>
      refine Alters.finish (h.modifySession ?_) _
      exact fun _ _ hq => hq
  | override options =>
      simp only
      split
      · refine Alters.finish (h.modifySession ?_) _
        exact fun _ _ hq => hq
      · exact h.finish _
      · exact h.finish _
  | command text =>
      simp only
      split
      · exact h.beginSend _ _ _
      · exact h.finish _
  | startAgain =>
      simp only
      split
      · exact h.beginLaunch _ _
      · exact h.finish _
  | supervisorStart i => exact h.beginLaunch i _
  | supervisorStop i => exact h.beginStop i _
  | supervisorKill i => exact (h.killSupervised i).finish _
  | supervisorCommand i text => exact h.beginSend i _ _
  | runFolder i folder => exact h.runFolders _ _ _ _
  | runAll i folders =>
      have hacquired := h.modifyRunner i fun r => { r with lock := r.lock.acquire s.tasks.length }
      simp only
      split
      · exact hacquired.runFolders _ _ _ _
      · cases folders with
        | nil => exact hacquired.setTask _
        | cons folder rest => exact hacquired.setTask _

/-- A request changes no task that there was before. -/
theorem call_other {s : State} {t : TaskId} (ht : t < s.tasks.length) (request : Request) :
    (s.call request).tasks[t]? = s.tasks[t]? := by
  rw [(s.call_alters request).tasks_other (Nat.ne_of_lt ht)]
  exact List.getElem?_append_left ht

/-! ### Events -/

/-- Adds new processes. -/
def create (s : State) (created : List Process) : State :=
  { s with processes := s.processes ++ created }

theorem create_nil (s : State) : s.create [] = s := by simp [create]

theorem launched_alters (s : State) (t : TaskId) (i : SupervisorId) (stage : LaunchStage)
    (result : Except Fault Unit) :
    ∃ created, (∀ q ∈ created, result = .ok ()) ∧
      Alters t (s.create created) (s.launched t i stage result) := by
  unfold launched
  split
  · next sup _ =>
      refine ⟨[_], fun _ _ => rfl, Alters.afterLaunch (.emit (.modifySupervisor .refl i _) rfl) i stage _⟩
  · refine ⟨[], by simp, ?_⟩
    rw [create_nil]
    exact Alters.refl.afterLaunch i stage _

/-- No supervisor looks after a one-shot process. -/
theorem oneShotLaunched_alters (s : State) (t : TaskId) (w : Work) (result : Except Fault Unit) :
    ∃ created, (∀ q ∈ created, result = .ok () ∧ q.owner = none) ∧
      Alters t (s.create created) (s.oneShotLaunched t w result) := by
  unfold oneShotLaunched
  split
  · refine ⟨[_], fun q hq => ⟨rfl, ?_⟩, .setTask .refl _⟩
    rw [List.mem_singleton.mp hq]
  · refine ⟨[], by simp, ?_⟩
    rw [create_nil]
    exact Alters.refl.compileFailed w _
  · refine ⟨[], by simp, ?_⟩
    rw [create_nil]
    exact .refl

/-- A process that an event creates before a task goes on: the one that the task waited for. -/
def Creates (s : State) (e : Event) (t : TaskId) (q : Process) : Prop :=
  e = .launched t (.ok ()) ∧
    ((∃ i stage, s.tasks[t]? = some (.launching i stage)) ∨
      (∃ w, s.tasks[t]? = some (.runnerLaunching w)) ∧ q.owner = none)

/-- An event that concerns a task creates at most a process, and all else is done by the task. -/
theorem step_alters {s : State} {e : Event} {t : TaskId} (he : e.task? = some t) :
    ∃ created, (∀ q ∈ created, s.Creates e t q) ∧ Alters t (s.create created) (s.step e) := by
  have h := Alters.refl (t := t) (s := s)
  have hgoes {e : Event} {s' : State} (halters : Alters t s s') :
      ∃ created, (∀ q ∈ created, s.Creates e t q) ∧ Alters t (s.create created) s' :=
    ⟨[], by simp, by rwa [create_nil]⟩
  rcases step_resumes he with hsame | ⟨task, htask, hresumes⟩
  · rw [hsame]
    exact hgoes h
  · generalize s.step e = s' at hresumes ⊢
    cases hresumes with
    | turn job => exact hgoes (h.runJob job)
    | writeTurn i command stage => exact hgoes (h.writeCommand i command stage)
    | runnerTurn w => exact hgoes (h.runFolders _ _ _ _)
    | emptyTurn i => exact hgoes (h.runFolders _ _ _ _)
    | reaped i p stage => exact hgoes (h.endReap i p stage)
    | launched i stage result =>
        obtain ⟨created, hok, halters⟩ := s.launched_alters t i stage result
        exact ⟨created, fun q hq => ⟨by rw [hok q hq], .inl ⟨i, stage, htask⟩⟩, halters⟩
    | oneShotLaunched w result =>
        obtain ⟨created, hok, halters⟩ := s.oneShotLaunched_alters t w result
        exact ⟨created, fun q hq => ⟨by rw [(hok q hq).1], .inr ⟨⟨w, htask⟩, (hok q hq).2⟩⟩, halters⟩
    | flushed i p command stage flush => exact hgoes (h.flushed i p command stage flush)
    | exited i p killed stage => exact hgoes (h.beginReap i stage)
    | oneShotExited p w => exact hgoes (h.oneShotExited p w)
    | oneShotKilled p w => exact hgoes (h.compileFailed w _)
    | stubborn i p stage => exact hgoes (h.killStubborn i p stage)
    | slow p w => exact hgoes (h.oneShotTimeout p w)
    | lost p w error => exact hgoes (h.compileFailed w _)

/-- An event changes no task but the one that it concerns. -/
theorem step_other {s : State} {e : Event} {t : TaskId} (ht : t < s.tasks.length)
    (h : e.task? ≠ some t) : (s.step e).tasks[t]? = s.tasks[t]? := by
  cases htask : e.task? with
  | some t' =>
      obtain ⟨created, -, halters⟩ := step_alters htask
      exact halters.tasks_other fun heq => h (heq ▸ htask)
  | none =>
      cases e with
      | call request => exact call_other ht request
      | read p name => simp [step]
      | notice p => simp [step]
      | output p name bytes =>
          simp only [step]
          split <;> rfl
      | exit p code =>
          simp only [step]
          split <;> rfl
      | breakOutput p name => rfl
      | writeFile path bytes =>
          simp only [step]
          split <;> rfl
      | _ => cases htask

/-- A task that has finished stays as it is. -/
theorem step_finished {s : State} {t : TaskId} {r : Except Fault Answer}
    (h : s.tasks[t]? = some (.finished r)) (e : Event) :
    (s.step e).tasks[t]? = some (.finished r) := by
  have ht : t < s.tasks.length := (List.getElem?_eq_some_iff.mp h).1
  by_cases hother : e.task? = some t
  · rw [step_of_finished hother h, h]
  · rw [step_other ht hother, h]

end State

end Datapack.Machine
