import Datapack.Proofs.Machine.ResidentSteps
import Datapack.Proofs.Machine.RunnerEvents

/-! How compilers are driven. From one point where it waits to the next one, a task launches at most
one process or writes at most one command, and it does so last: then it waits for the process or for
the flush. On the way it leaves alone what launches are made from: the settings and the root of the
session, and the settings of the runners. -/

namespace Datapack

/-- Whether an effect launches a process or writes to one. -/
def Effect.drives : Effect → Bool
  | launch _ | write _ _ => true
  | log _ | publish _ | notify _ | signal _ _ | line _ | exit _ => false

theorem Effect.drives_of_tells {e : Effect} (h : e.tells) : e.drives = false := by
  cases e <;> first | rfl | cases h

namespace Machine

open Diagnostic Text

/-! ### Tasks and what they wait for -/

/-- The command whose flush a task waits for, and the process it was written to. -/
def Task.flush? : Task → Option (ProcessId × String)
  | flushing _ p command _ => some (p, command)
  | _ => none

/-- A task that does not wait for a flush. -/
def State.Rests (s : State) (t : TaskId) : Prop :=
  ∀ task, s.tasks[t]? = some task → task.flush? = none

/-- The mode of a session whose compilers a task is about; a task that has ended, or waits to save
or compile, can be of both. -/
def Task.mode? : Task → Option CompilerMode
  | compileTurn .restart => some .persistent
  | launching _ _ | exiting _ _ _ _ | reaping _ _ _ | writeTurn _ _ _ | flushing _ _ _ _ =>
    some .persistent
  | runnerTurn _ | emptyTurn _ | runnerLaunching _ | running _ _ | runnerReaping _ _ => some .batch
  | compileTurn _ | finished _ => none

def Task.fits (mode : CompilerMode) (task : Task) : Prop := ∀ m, task.mode? = some m → m = mode

/-- What a session launches its compilers from. -/
def State.orders (s : State) : Option (Settings × Option Path) :=
  s.session.map fun q => (q.settings, q.root)

/-- The launch of the compiler that stays, for the root of a session. -/
def residentLaunch (settings : Settings) (root : Path) : Launch :=
  ⟨settings.residentCommand root.toText, none, State.longestLine⟩

/-! ### On the way -/

/-- From one state to the other no task moved, nothing was launched or written, and what launches
are made from stayed as it was. -/
structure Steady (s s' : State) : Prop where
  tasks : s'.tasks = s.tasks
  files : s'.files = s.files
  orders : s'.orders = s.orders
  runners : s'.runners.map (·.settings) = s.runners.map (·.settings)
  trace : ∃ es : List Effect, s'.trace = s.trace ++ es.toArray ∧ ∀ e ∈ es, e.drives = false

/-- What drives a compiler is the last thing done, if all before it was on the way. -/
theorem Steady.trace_push {s s' : State} (h : Steady s s') (last : Effect) :
    ∃ es : List Effect, s'.trace.push last = s.trace ++ (es ++ [last]).toArray ∧
      ∀ e ∈ es, e.drives = false := by
  obtain ⟨es, hes, hundriven⟩ := h.trace
  exact ⟨es, by simp [hes], hundriven⟩

/-- How far a task gets: it waits as before, it waits for something else or has ended, or it waits
for what it launched or wrote last. -/
inductive Drives (mode : CompilerMode) (t : TaskId) (s : State) : State → Prop where
  | stays {s' : State} (steady : Steady s s')
      (resting : s.Rests t) : Drives mode t s s'
  | rests {s' : State} {task : Task} (steady : Steady s s') (fits : task.fits mode)
      (resting : task.flush? = none) : Drives mode t s (s'.setTask t task)
  | writes {s' : State} (steady : Steady s s') (resident : mode = .persistent) (i : SupervisorId)
      (p : ProcessId) (command : String) (stage : SendStage) :
      Drives mode t s ((s'.emit (.write p (command ++ State.commandEnd))).setTask t
        (.flushing i p command stage))
  | launches {s' : State} {settings : Settings} {root : Path} (steady : Steady s s')
      (resident : mode = .persistent) (ordered : s.orders = some (settings, some root))
      (i : SupervisorId) (stage : LaunchStage) :
      Drives mode t s ((s'.emit (.launch (residentLaunch settings root))).setTask t
        (.launching i stage))
  | compiles {s' : State} {files : FileTree} {settings : Settings} {w : Work} (steady : Steady s s')
      (oneShot : mode = .batch) (ordered : settings ∈ s.runners.map (·.settings))
      (removed : s.files.remove settings.reportPath = .ok files) :
      Drives mode t s (({ s' with files }.emit
        (.launch (State.oneShotLaunch settings w.folder))).setTask t (.runnerLaunching w))

theorem State.drives_outputEntries (q : Process) :
    ∀ e ∈ State.outputEntries q, e.drives = false := by
  intro e he
  obtain ⟨entry, rfl⟩ := State.log_of_mem_outputEntries e he
  rfl

/-- The mode of the session. -/
def State.mode? (s : State) : Option CompilerMode := s.orders.map (·.1.mode)

/-- The mode in which a task goes on: that of the session, unless the task fits only one. -/
def State.modeOf (s : State) (task : Task) : CompilerMode :=
  task.mode?.getD (s.mode?.getD .persistent)

namespace Steady

variable {s₀ s s' : State}

theorem refl (s : State) : Steady s s := ⟨rfl, rfl, rfl, rfl, [], by simp, by simp⟩

theorem trans (h : Steady s₀ s) (h' : Steady s s') : Steady s₀ s' := by
  obtain ⟨es, htrace, hes⟩ := h.trace
  obtain ⟨es', htrace', hes'⟩ := h'.trace
  refine ⟨h'.tasks.trans h.tasks, h'.files.trans h.files, h'.orders.trans h.orders,
    h'.runners.trans h.runners, es ++ es', ?_, ?_⟩
  · rw [htrace', htrace]
    simp
  · intro e he
    rcases List.mem_append.mp he with he | he
    · exact hes e he
    · exact hes' e he

section

variable (h : Steady s₀ s)

include h

/-! ### Changes -/

theorem emit {e : Effect} (he : e.drives = false) : Steady s₀ (s.emit e) :=
  h.trans ⟨rfl, rfl, rfl, rfl, [e], by simp [State.emit], by simpa using he⟩

theorem emitAll {es : List Effect} (hes : ∀ e ∈ es, e.drives = false) :
    Steady s₀ (s.emitAll es) := by
  refine h.trans ?_
  rw [State.emitAll_eq]
  exact ⟨rfl, rfl, rfl, rfl, es, rfl, hes⟩

theorem modifySupervisor (i : SupervisorId) (f : Supervisor → Supervisor) :
    Steady s₀ (s.modifySupervisor i f) :=
  h.trans ⟨rfl, rfl, rfl, rfl, [], by simp [State.modifySupervisor], by simp⟩

theorem modifyProcess (p : ProcessId) (f : Process → Process) : Steady s₀ (s.modifyProcess p f) :=
  h.trans ⟨rfl, rfl, rfl, rfl, [], by simp [State.modifyProcess], by simp⟩

theorem processes (processes : List Process) : Steady s₀ { s with processes } :=
  h.trans ⟨rfl, rfl, rfl, rfl, [], by simp, by simp⟩

theorem addSupervisor (sup : Supervisor) :
    Steady s₀ { s with supervisors := s.supervisors ++ [sup] } :=
  h.trans ⟨rfl, rfl, rfl, rfl, [], by simp, by simp⟩

theorem modifyRunner (i : RunnerId) {f : Runner → Runner} (hf : ∀ r, (f r).settings = r.settings) :
    Steady s₀ (s.modifyRunner i f) := by
  refine h.trans ⟨rfl, rfl, rfl, ?_, [], by simp [State.modifyRunner], by simp⟩
  apply List.ext_getElem?
  intro n
  simp only [State.modifyRunner, List.getElem?_map, List.getElem?_modify]
  split
  · simp [Function.comp_def, hf]
  · simp

theorem modifySession {f : Session → Session}
    (hf : ∀ q, ((f q).settings, (f q).root) = (q.settings, q.root)) :
    Steady s₀ (s.modifySession f) := by
  refine h.trans ⟨rfl, rfl, ?_, rfl, [], by simp [State.modifySession], by simp⟩
  simp [State.orders, State.modifySession, Function.comp_def, hf]

theorem modifySessionOf (generation : Nat) {f : Session → Session}
    (hf : ∀ q, ((f q).settings, (f q).root) = (q.settings, q.root)) :
    Steady s₀ (s.modifySessionOf generation f) := by
  unfold State.modifySessionOf
  split
  · exact h.modifySession hf
  · exact h.trans ⟨rfl, rfl, rfl, rfl, [], by simp, by simp⟩

/-! ### Diagnostics -/

theorem submit (generation : Nat) (op : Session → Operation) :
    Steady s₀ (s.submit generation op).1 := by
  rcases s.submit_cases generation op with ⟨_, hs⟩ | ⟨q, t, es, result, _, _, hs, hes⟩ <;> rw [hs]
  · exact h
  · refine (h.modifySessionOf generation ?_).emitAll fun e he => ?_
    · exact fun _ => rfl
    · rcases hes e he with ⟨_, rfl⟩ | ⟨_, rfl⟩ <;> rfl

theorem clearStream : Steady s₀ s.clearStream := h.modifySession fun _ => rfl

theorem openPass (extra : List String) : Steady s₀ (s.openPass extra).1 :=
  s.openPass_eq_submit extra ▸ h.submit _ _

theorem closeDocument (uri : String) : Steady s₀ (s.closeDocument uri).1 :=
  s.closeDocument_eq_submit uri ▸ h.submit _ _

theorem enterReport (folder : Path) (report : Option Report) :
    Steady s₀ (s.enterReport folder report).1 :=
  s.enterReport_eq_submit folder report ▸ h.submit _ _

theorem takeLine (generation : Nat) (line : String) : Steady s₀ (s.takeLine generation line).1 :=
  s.takeLine_eq_submit generation line ▸ h.submit _ _

theorem handLine (sink : Sink) (line : String) : Steady s₀ (s.handLine sink line) := by
  unfold State.handLine
  cases sink with
  | session generation =>
      have htaken := h.takeLine generation line
      simp only
      generalize s.takeLine generation line = taken at htaken ⊢
      obtain ⟨s', result⟩ := taken
      cases result with
      | ok _ => exact htaken
      | error e => exact htaken.emit rfl
  | recorder takes tellsExit =>
      simp only
      split
      · exact h.emit rfl
      · exact (h.emit rfl).emit rfl

theorem logLine (line : String) : Steady s₀ (s.logLine line) := by
  unfold State.logLine
  simp only
  split
  · exact h
  · exact h.emit rfl

theorem read (p : ProcessId) (name : OutputName) : Steady s₀ (s.read p name) := by
  have hkeep (rest : Pipe) (reader : Reader) : Steady s₀ (s.keepOutput p name rest reader) :=
    h.modifyProcess p _
  rcases s.read_cases p name with ⟨hsame, _⟩ | ⟨q, sup, item, rest, hdue⟩
  · rw [hsame]
    exact h
  · rw [State.read_eq hdue]
    cases item with
    | finished => exact hkeep rest .finished
    | failure => exact hkeep rest .failed
    | dropped => exact (hkeep rest .reading).emit rfl
    | line bytes =>
        cases name with
        | stdout => exact (hkeep rest .reading).logLine _
        | stderr => exact (hkeep rest .reading).handLine _ _

theorem handExit (sink : Sink) (code : Int) : Steady s₀ (s.handExit sink code) := by
  cases sink with
  | session generation =>
      refine Steady.modifySessionOf (h.modifySessionOf generation ?_) generation ?_
      · exact fun _ => rfl
      · exact fun _ => rfl
  | recorder takes tellsExit =>
      simp only [State.handExit]
      split
      · exact h.emit rfl
      · exact h

theorem noticeExit (p : ProcessId) : Steady s₀ (s.noticeExit p) := by
  rcases s.noticeExit_cases p with ⟨hsame, _⟩ | ⟨q, code, i, sup, hdue⟩
  · rw [hsame]
    exact h
  · rw [State.noticeExit_eq hdue]
    have hunwatched : Steady s₀ ((s.unwatch p).emitAll (State.readerFailures q)) :=
      (h.modifyProcess p _).emitAll fun e he => e.drives_of_tells (Tells.readerFailures q e he)
    split
    · exact hunwatched
    · exact ((hunwatched.emit rfl).modifySupervisor _ _).handExit _ _

/-! ### Launches and stops -/

theorem finish (mode : CompilerMode) (t : TaskId) (r : Except Fault Answer) :
    Drives mode t s₀ (s.finish t r) :=
  .rests h nofun rfl

theorem endPass (mode : CompilerMode) (t : TaskId) (r : Except Fault Answer) :
    Drives mode t s₀ (s.endPass t r) := by
  refine Steady.finish (h.modifySession ?_) mode t r
  exact fun _ => rfl

theorem setHandle (compiler : Option SupervisorId) :
    Steady s₀ (s.modifySession fun q => { q with compiler }) :=
  h.modifySession fun _ => rfl

theorem closeLaunch (mode : CompilerMode) (t : TaskId) (stage : LaunchStage)
    (r : Except Fault Answer) : Drives mode t s₀ (s.closeLaunch t stage r) := by
  unfold State.closeLaunch
  split
  · exact h.endPass mode t _
  · exact h.finish mode t _
  · exact h.finish mode t _

theorem afterLaunch (mode : CompilerMode) (t : TaskId) (i : SupervisorId) (stage : LaunchStage)
    (result : Except Fault Unit) : Drives mode t s₀ (s.afterLaunch t i stage result) := by
  unfold State.afterLaunch
  split
  · exact h.finish mode t _
  · exact (h.setHandle _).closeLaunch mode t stage _
  · exact ((h.emit rfl).setHandle _).closeLaunch mode t stage _
  · exact h.closeLaunch mode t stage _

theorem launched (mode : CompilerMode) (t : TaskId) (i : SupervisorId) (stage : LaunchStage)
    (result : Except Fault Unit) : Drives mode t s₀ (s.launched t i stage result) := by
  unfold State.launched
  split
  · exact (((h.processes _).modifySupervisor i _).emit rfl).afterLaunch mode t i stage _
  · exact h.afterLaunch mode t i stage _

/-- A new supervisor is launched with the settings and the root that the session has now. -/
theorem launchCompiler (t : TaskId) (stage : LaunchStage) :
    Drives .persistent t s₀ (s.launchCompiler t stage) := by
  cases hs : s.session with
  | none =>
      simp only [State.launchCompiler, hs, Option.bind_none]
      exact h.closeLaunch .persistent t stage _
  | some q =>
      cases hroot : q.root with
      | none =>
          simp only [State.launchCompiler, hs, hroot, Option.bind_some, Option.map_none]
          exact h.closeLaunch .persistent t stage _
      | some root =>
          rw [State.launchCompiler_eq hs hroot]
          refine .launches ((h.emit rfl).addSupervisor _) rfl ?_ _ stage
          rw [← h.orders, State.orders, hs, Option.map_some, hroot]

/-- A supervisor that is launched again keeps its settings, whatever the session has now. -/
theorem beginLaunch {t : TaskId} (hresting : s₀.Rests t) (i : SupervisorId) :
    Drives .persistent t s₀ (s.beginLaunch t i .direct) ∨
      ∃ s' launch, Steady s₀ s' ∧ s.beginLaunch t i .direct =
        (s'.emit (.launch launch)).setTask t (.launching i .direct) := by
  unfold State.beginLaunch
  split
  · exact .inl (.stays h hresting)
  · simp only
    split
    · exact .inl (h.finish .persistent t _)
    · exact .inr ⟨_, _, (h.emit rfl).modifySupervisor i _, rfl⟩

theorem afterStop (t : TaskId) (stage : StopStage) :
    Drives .persistent t s₀ (s.afterStop t stage) := by
  cases stage with
  | direct => exact h.finish .persistent t _
  | close => exact (h.setHandle none).clearStream.finish .persistent t _
  | restart => exact (h.setHandle none).clearStream.launchCompiler t _

theorem failStop (t : TaskId) (stage : StopStage) (e : Fault) :
    Drives .persistent t s₀ (s.failStop t stage e) := by
  unfold State.failStop
  split
  · exact h.endPass .persistent t _
  · exact h.finish .persistent t _

theorem cancelReaders (p : ProcessId) : Steady s₀ (s.cancelReaders p) := h.modifyProcess p _

theorem letGo (t : TaskId) (i : SupervisorId) (stage : StopStage) :
    Drives .persistent t s₀ (s.letGo t i stage) :=
  ((h.modifySupervisor i _).emit rfl).afterStop t stage

theorem endReap (t : TaskId) (i : SupervisorId) (p : ProcessId) (stage : StopStage) :
    Drives .persistent t s₀ (s.endReap t i p stage) := by
  unfold State.endReap
  split
  · exact h.failStop t stage _
  · exact h.letGo t i stage

theorem beginReap (t : TaskId) (i : SupervisorId) (stage : StopStage) :
    Drives .persistent t s₀ (s.beginReap t i stage) := by
  unfold State.beginReap
  split
  · exact h.letGo t i stage
  · split
    · exact (h.cancelReaders _).failStop t stage _
    · exact .rests (h.cancelReaders _) (by rintro _ ⟨⟩; rfl) rfl
    · split
      · exact .rests h (by rintro _ ⟨⟩; rfl) rfl
      · exact h.letGo t i stage

theorem beginStop (t : TaskId) (i : SupervisorId) (stage : StopStage) :
    Drives .persistent t s₀ (s.beginStop t i stage) := by
  unfold State.beginStop
  split
  · exact h.afterStop t stage
  · have hhalted := h.modifySupervisor i fun q => { q with stopping := true }
    simp only
    split
    · exact .rests (hhalted.emit rfl) (by rintro _ ⟨⟩; rfl) rfl
    · exact hhalted.beginReap t i stage

theorem killStubborn (t : TaskId) (i : SupervisorId) (p : ProcessId) (stage : StopStage) :
    Drives .persistent t s₀ (s.killStubborn t i p stage) :=
  .rests ((h.emit rfl).emit rfl) (by rintro _ ⟨⟩; rfl) rfl

theorem killSupervised (i : SupervisorId) : Steady s₀ (s.killSupervised i) := by
  unfold State.killSupervised
  split
  · exact h
  · exact (h.modifySupervisor i _).emit rfl

/-! ### Commands -/

theorem failSend (t : TaskId) (stage : SendStage) (e : Fault) :
    Drives .persistent t s₀ (s.failSend t stage e) := by
  unfold State.failSend
  split
  · exact h.finish .persistent t _
  all_goals exact (h.emit rfl).endPass .persistent t _

theorem writeCommand (t : TaskId) (i : SupervisorId) (command : String) (stage : SendStage) :
    Drives .persistent t s₀ (s.writeCommand t i command stage) := by
  unfold State.writeCommand
  split
  · exact (h.modifySupervisor i _).failSend t stage _
  · exact .writes (h.emit rfl) rfl i _ command stage

theorem beginSend (t : TaskId) (i : SupervisorId) (command : String) (stage : SendStage) :
    Drives .persistent t s₀ (s.beginSend t i command stage) := by
  have hacquired := h.modifySupervisor i fun q => { q with writeLock := q.writeLock.acquire t }
  unfold State.beginSend
  simp only
  split
  · exact hacquired.writeCommand t i command stage
  · exact .rests hacquired (by rintro _ ⟨⟩; rfl) rfl

theorem afterSend (t : TaskId) (i : SupervisorId) (stage : SendStage) :
    Drives .persistent t s₀ (s.afterSend t i stage) := by
  unfold State.afterSend
  split
  · exact h.finish .persistent t _
  · split
    · split
      · exact h.endPass .persistent t _
      · exact h.beginSend t i _ _
    · exact h.endPass .persistent t _
  · exact (h.emit rfl).endPass .persistent t _
  · exact h.beginSend t i _ _
  · exact h.endPass .persistent t _

theorem flushed (t : TaskId) (i : SupervisorId) (p : ProcessId) (command : String)
    (stage : SendStage) (flush : State.Flush) :
    Drives .persistent t s₀ (s.flushed t i p command stage flush) := by
  cases flush with
  | done => exact (h.modifySupervisor i _).afterSend t i stage
  | closed => exact (h.modifySupervisor i _).failSend t stage _
  | timeout => exact (((h.emit rfl).emit rfl).modifySupervisor i _).failSend t stage _

theorem commandPass (t : TaskId) (i : SupervisorId) (extra : List String) (stage : SendStage) :
    Drives .persistent t s₀ (s.commandPass t i extra stage) := by
  have hopened := h.openPass extra
  unfold State.commandPass
  split
  · next s' hs' =>
      rw [hs'] at hopened
      exact hopened.beginSend t i _ stage
  · next s' e hs' =>
      rw [hs'] at hopened
      exact hopened.endPass .persistent t _

/-! ### One-shot compiles -/

theorem releaseRunner (i : RunnerId) : Steady s₀ (s.releaseRunner i) := by
  refine h.modifyRunner i ?_
  exact fun _ => rfl

theorem takeReport (settings : Settings) (folder : Path) :
    Steady s₀ (s.takeReport settings folder).1 := by
  unfold State.takeReport
  simp only
  repeat' split
  all_goals first | exact h.emit rfl | exact h

theorem invocationFailed (folder : Path) (e : Fault) :
    Steady s₀ (s.invocationFailed folder e).1 := by
  unfold State.invocationFailed
  split
  · exact h.emit rfl
  · exact h.emit rfl
  · exact h

theorem closeWork (t : TaskId) (stage : BatchStage) (r : Except Fault Answer) :
    Drives .batch t s₀ (s.closeWork t stage r) := by
  unfold State.closeWork
  split
  · exact h.endPass .batch t r
  · exact h.finish .batch t r

theorem failWork (t : TaskId) (w : Work) (e : Fault) : Drives .batch t s₀ (s.failWork t w e) :=
  (h.releaseRunner w.runner).closeWork t w.stage _

/-- The report of a folder that ended, and the folders after it, if they are known to do. -/
theorem compiled_of {t : TaskId} {w : Work}
    (ih : ∀ {s : State}, Steady s₀ s → ∀ runner stage owned,
      Drives .batch t s₀ (s.runFolders t runner stage owned w.rest)) (report : Option Report) :
    Drives .batch t s₀ (s.compiled t w report) := by
  cases hstage : w.stage with
  | single =>
      rw [State.compiled_single s t hstage]
      exact (h.releaseRunner _).finish .batch t _
  | all done =>
      rw [State.compiled_all s t hstage]
      exact ih h _ _ _
  | pass =>
      rw [State.compiled_pass s t hstage]
      have hentered := (h.releaseRunner w.runner).enterReport w.folder report
      split
      · next s' hs' =>
          rw [hs'] at hentered
          exact ih hentered _ _ _
      · next s' e hs' =>
          rw [hs'] at hentered
          exact hentered.endPass .batch t _

theorem runFolders {t : TaskId} (hresting : s₀.Rests t) (runner : RunnerId)
    (stage : BatchStage) (owned : Bool) (folders : List Path) :
    Drives .batch t s₀ (s.runFolders t runner stage owned folders) := by
  induction folders generalizing s runner stage owned with
  | nil =>
      cases stage with
      | all done => exact (h.releaseRunner runner).finish .batch t _
      | single => exact h.finish .batch t _
      | pass => exact h.endPass .batch t _
  | cons folder rest ih =>
      rw [State.runFolders]
      generalize hs1 : (if owned then s
        else s.modifyRunner runner fun r => { r with lock := r.lock.acquire t }) = s1
      have hlocked : Steady s₀ s1 := by
        rw [← hs1]
        split
        · exact h
        · exact h.modifyRunner _ fun _ => rfl
      split
      · exact .stays hlocked hresting
      · next r hr =>
          split
          · exact .rests hlocked (by rintro _ ⟨⟩; rfl) rfl
          · have hnamed := hlocked.emit (e := .info ("Compiling datapack " ++ folder.toText)) rfl
            have hordered : r.settings ∈ s₀.runners.map (·.settings) := by
              rw [← hlocked.runners]
              exact List.mem_map_of_mem (List.mem_of_getElem? hr)
            simp only [State.beginCompile]
            cases hremoved : (s1.emit (.info ("Compiling datapack " ++ folder.toText))).files.remove
                r.settings.reportPath with
            | ok files =>
                refine .compiles (w := ⟨runner, folder, rest, stage⟩) hnamed rfl hordered ?_
                rw [← hnamed.files, hremoved]
            | error e =>
                dsimp only
                have hfailed := hnamed.invocationFailed folder e
                split
                · next s2 e' hs2 =>
                    rw [hs2] at hfailed
                    exact hfailed.failWork t _ e'
                · next s2 report hs2 =>
                    rw [hs2] at hfailed
                    exact hfailed.compiled_of (w := ⟨runner, folder, rest, stage⟩) ih report

theorem compiled {t : TaskId} (hresting : s₀.Rests t) (w : Work)
    (report : Option Report) : Drives .batch t s₀ (s.compiled t w report) :=
  h.compiled_of (fun hs runner stage owned => hs.runFolders hresting runner stage owned _) report

theorem compileFailed {t : TaskId} (hresting : s₀.Rests t) (w : Work) (e : Fault) :
    Drives .batch t s₀ (s.compileFailed t w e) := by
  have hfailed := h.invocationFailed w.folder e
  unfold State.compileFailed
  split
  · next s' report hs' =>
      rw [hs'] at hfailed
      exact hfailed.compiled hresting w report
  · next s' e' hs' =>
      rw [hs'] at hfailed
      exact hfailed.failWork t w e'

theorem oneShotLaunched {t : TaskId} (hresting : s₀.Rests t) (w : Work)
    (result : Except Fault Unit) : Drives .batch t s₀ (s.oneShotLaunched t w result) := by
  unfold State.oneShotLaunched
  split
  · exact .rests (h.processes _) (by rintro _ ⟨⟩; rfl) rfl
  · exact h.compileFailed hresting w _
  · exact .stays h hresting

theorem oneShotExited {t : TaskId} (hresting : s₀.Rests t) (p : ProcessId) (w : Work) :
    Drives .batch t s₀ (s.oneShotExited t p w) := by
  unfold State.oneShotExited
  split
  · next q r _ _ =>
      have htaken := (h.emitAll (State.drives_outputEntries q)).takeReport r.settings w.folder
      split
      · next s' report hs' =>
          rw [hs'] at htaken
          exact htaken.compiled hresting w report
      · next s' e hs' =>
          rw [hs'] at htaken
          exact htaken.failWork t w e
  · exact .stays h hresting

theorem oneShotTimeout (t : TaskId) (p : ProcessId) (w : Work) :
    Drives .batch t s₀ (s.oneShotTimeout t p w) :=
  .rests (h.emit rfl) (by rintro _ ⟨⟩; rfl) rfl

theorem oneShotPass {t : TaskId} (hresting : s₀.Rests t) (session : Session) :
    Drives .batch t s₀ (s.oneShotPass t session) := by
  unfold State.oneShotPass
  split
  · exact h.endPass .batch t _
  · split
    · exact h.endPass .batch t _
    · exact h.runFolders hresting _ _ _ _

/-! ### Jobs -/

theorem savePass {t : TaskId} (hresting : s₀.Rests t) (session : Session)
    (uri : String) : Drives session.settings.mode t s₀ (s.savePass t session uri) := by
  unfold State.savePass
  split
  · next hmode =>
      rw [hmode]
      exact h.oneShotPass hresting session
  · next hmode =>
      rw [hmode]
      split
      · exact (h.emit rfl).endPass .persistent t _
      · exact (h.emit rfl).commandPass t _ _ _

theorem compilePass {t : TaskId} (hresting : s₀.Rests t) (session : Session) :
    Drives session.settings.mode t s₀ (s.compilePass t session) := by
  unfold State.compilePass
  split
  · next hmode =>
      rw [hmode]
      exact h.oneShotPass hresting session
  · next hmode =>
      rw [hmode]
      split
      · exact h.commandPass t _ _ _
      · exact (h.emit rfl).endPass .persistent t _

theorem restartPass (t : TaskId) (session : Session) :
    Drives .persistent t s₀ (s.restartPass t session) := by
  unfold State.restartPass
  split
  · exact h.beginStop t _ _
  · exact h.clearStream.launchCompiler t _

theorem runJob {t : TaskId} (hresting : s₀.Rests t) (job : Job) :
    Drives (s₀.modeOf (.compileTurn job)) t s₀ (s.runJob t job) := by
  unfold State.runJob
  split
  · exact h.finish _ t _
  · next session hsession =>
      have hmode : s₀.mode?.getD .persistent = session.settings.mode := by
        rw [State.mode?, ← h.orders, State.orders, hsession]
        rfl
      cases job with
      | save uri =>
          rw [State.modeOf, hmode]
          exact h.savePass hresting session uri
      | compile =>
          rw [State.modeOf, hmode]
          exact h.compilePass hresting session
      | restart => exact h.restartPass t session

theorem beginJob {t : TaskId} (hresting : s₀.Rests t) (job : Job) :
    Drives (s₀.modeOf (.compileTurn job)) t s₀ (s.beginJob t job) := by
  have hacquired : Steady s₀ (s.modifySession fun q => { q with lock := q.lock.acquire t }) := by
    refine h.modifySession ?_
    exact fun _ => rfl
  unfold State.beginJob
  simp only
  split
  · exact hacquired.runJob hresting job
  · refine .rests hacquired ?_ rfl
    cases job <;> rintro _ ⟨⟩
    rfl

/-- Only compilers that stay are restarted, whatever the session is. -/
theorem beginRestart {t : TaskId} (hresting : s₀.Rests t) :
    Drives (s₀.mode?.getD .persistent) t s₀ (s.beginRestart t) := by
  unfold State.beginRestart
  split
  · exact h.finish _ t _
  · next session hsession =>
      rw [State.mode?, ← h.orders, State.orders, hsession]
      simp only [Option.map_some, Option.getD_some]
      split
      · exact h.finish _ t _
      · next hmode =>
          rw [hmode]
          exact h.beginJob hresting .restart

theorem closeSession (t : TaskId) : Drives .persistent t s₀ (s.closeSession t) := by
  unfold State.closeSession
  split
  · exact h.beginStop t _ _
  · exact h.clearStream.finish .persistent t _

theorem killSession : Steady s₀ s.killSession := by
  unfold State.killSession
  refine Steady.clearStream ?_
  split
  · exact (h.killSupervised _).setHandle none
  · exact h

end

end Steady

end Machine

end Datapack
