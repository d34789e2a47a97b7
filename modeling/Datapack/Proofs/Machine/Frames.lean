import Datapack.Proofs.Machine.Commands
import Datapack.Proofs.Machine.Resumptions
import Datapack.Proofs.Machine.Watches

/-! What the parts of a step leave alone: the readers and the watches move no task, a task that is
moved or finished leaves the others, and compiles in processes of their own stand aside from the
session. -/

namespace Datapack.Machine

open Diagnostic Text

namespace State

/-! ### What concerns no task -/

@[simp] theorem tasks_emit (s : State) (e : Effect) : (s.emit e).tasks = s.tasks := rfl

@[simp] theorem tasks_emitAll (s : State) (es : List Effect) : (s.emitAll es).tasks = s.tasks := by
  rw [emitAll_eq]

@[simp] theorem tasks_modifyProcess (s : State) (p : ProcessId) (f : Process → Process) :
    (s.modifyProcess p f).tasks = s.tasks := rfl

@[simp] theorem tasks_modifySupervisor (s : State) (i : SupervisorId)
    (f : Supervisor → Supervisor) :
    (s.modifySupervisor i f).tasks = s.tasks := rfl

@[simp] theorem tasks_modifySession (s : State) (f : Session → Session) :
    (s.modifySession f).tasks = s.tasks := rfl

@[simp] theorem tasks_modifySessionOf (s : State) (generation : Nat) (f : Session → Session) :
    (s.modifySessionOf generation f).tasks = s.tasks := by
  unfold modifySessionOf
  split <;> rfl

@[simp] theorem tasks_submit (s : State) (generation : Nat) (op : Session → Operation) :
    (s.submit generation op).1.tasks = s.tasks := by
  rcases s.submit_cases generation op with ⟨_, h⟩ | ⟨_, _, _, _, _, _, h, _⟩ <;> simp [h]

@[simp] theorem tasks_clearStream (s : State) : s.clearStream.tasks = s.tasks := rfl

@[simp] theorem tasks_clearStreamOf (s : State) (generation : Nat) :
    (s.clearStreamOf generation).tasks = s.tasks := by
  simp [clearStreamOf]

@[simp] theorem tasks_takeLine (s : State) (generation : Nat) (line : String) :
    (s.takeLine generation line).1.tasks = s.tasks := by
  rw [takeLine_eq_submit, tasks_submit]

@[simp] theorem tasks_openPass (s : State) (extra : List String) :
    (s.openPass extra).1.tasks = s.tasks := by
  rw [openPass_eq_submit, tasks_submit]

@[simp] theorem tasks_closeDocument (s : State) (uri : String) :
    (s.closeDocument uri).1.tasks = s.tasks := by
  rw [closeDocument_eq_submit, tasks_submit]

@[simp] theorem tasks_handLine (s : State) (sink : Sink) (line : String) :
    (s.handLine sink line).tasks = s.tasks := by
  unfold handLine
  cases sink with
  | session generation =>
      simp only
      split <;> simp
  | recorder takes tellsExit =>
      simp only
      split <;> simp

@[simp] theorem tasks_logLine (s : State) (line : String) :
    (s.logLine line).tasks = s.tasks := by
  unfold logLine
  simp only
  split <;> rfl

@[simp] theorem tasks_read (s : State) (p : ProcessId) (name : OutputName) :
    (s.read p name).tasks = s.tasks := by
  rcases s.read_cases p name with ⟨hsame, _⟩ | ⟨q, sup, item, rest, hdue⟩
  · rw [hsame]
  · rw [read_eq hdue]
    cases item <;> cases name <;> simp [keepOutput]

@[simp] theorem tasks_handExit (s : State) (sink : Sink) (code : Int) :
    (s.handExit sink code).tasks = s.tasks := by
  unfold handExit
  repeat' split
  all_goals simp

@[simp] theorem tasks_noticeExit (s : State) (p : ProcessId) :
    (s.noticeExit p).tasks = s.tasks := by
  rcases s.noticeExit_cases p with ⟨hsame, _⟩ | ⟨q, code, i, sup, hdue⟩
  · rw [hsame]
  · rw [noticeExit_eq hdue]
    split <;> simp [unwatch, forget]

@[simp] theorem tasks_killSupervised (s : State) (i : SupervisorId) :
    (s.killSupervised i).tasks = s.tasks := by
  unfold killSupervised
  split <;> rfl

@[simp] theorem tasks_killSession (s : State) : s.killSession.tasks = s.tasks := by
  unfold killSession
  split <;> simp

/-! ### What concerns one task -/

section OtherTask

variable {t t' : TaskId} (h : t' ≠ t)
include h

@[simp] theorem setTask_other (s : State) (task : Task) :
    (s.setTask t task).tasks[t']? = s.tasks[t']? := by
  simp [setTask, h.symm]

@[simp] theorem finish_other (s : State) (r : Except Fault Answer) :
    (s.finish t r).tasks[t']? = s.tasks[t']? := by
  simp [finish, h]

end OtherTask

/-! ### One-shot compiles -/

/-- Two states differ only in processes, the locks of runners, files and the trace. -/
structure Aside (s s' : State) : Prop where
  tasks : s'.tasks = s.tasks
  session : s'.session = s.session
  supervisors : s'.supervisors = s.supervisors
  runners : s'.runners.length = s.runners.length

namespace Aside

theorem refl (s : State) : Aside s s := ⟨rfl, rfl, rfl, rfl⟩

theorem trans {s s' s'' : State} (h : Aside s s') (h' : Aside s' s'') : Aside s s'' :=
  ⟨h'.tasks.trans h.tasks, h'.session.trans h.session, h'.supervisors.trans h.supervisors,
    h'.runners.trans h.runners⟩

theorem emit (s : State) (e : Effect) : Aside s (s.emit e) := ⟨rfl, rfl, rfl, rfl⟩

theorem emitAll (s : State) (es : List Effect) : Aside s (s.emitAll es) := by
  rw [emitAll_eq]
  exact ⟨rfl, rfl, rfl, rfl⟩

theorem processes (s : State) (processes : List Process) : Aside s { s with processes } :=
  ⟨rfl, rfl, rfl, rfl⟩

theorem modifyRunner (s : State) (i : RunnerId) (f : Runner → Runner) :
    Aside s (s.modifyRunner i f) :=
  ⟨rfl, rfl, rfl, List.length_modify _ _ _⟩

theorem releaseRunner (s : State) (i : RunnerId) : Aside s (s.releaseRunner i) :=
  modifyRunner s i _

theorem beginCompile (s : State) (settings : Settings) (folder : Path) :
    Aside s (s.beginCompile settings folder).1 := by
  unfold State.beginCompile
  simp only
  split <;> exact ⟨rfl, rfl, rfl, rfl⟩

theorem takeReport (s : State) (settings : Settings) (folder : Path) :
    Aside s (s.takeReport settings folder).1 := by
  unfold State.takeReport
  simp only
  repeat' split
  all_goals first | exact emit s _ | exact refl s

end Aside

/-- An invocation that failed gives no report, or the failure comes up again. -/
theorem invocationFailed_cases (s : State) (folder : Path) (e : Fault) :
    (∃ entry, s.invocationFailed folder e = (s.emit entry, .ok none)) ∨
      s.invocationFailed folder e = (s, .error e) := by
  unfold invocationFailed
  split
  · exact .inl ⟨_, rfl⟩
  · exact .inl ⟨_, rfl⟩
  · exact .inr rfl

/-- The output of a one-shot process is only logged. -/
theorem log_of_mem_outputEntries {q : Process} :
    ∀ e ∈ outputEntries q, ∃ entry, e = .log entry := by
  have hshown (text : String) : ∀ e ∈ (if text.isEmpty then [] else
      [Effect.info ("compiler: " ++ text)]), ∃ entry, e = .log entry := by
    split <;> simp [Effect.info]
  intro e he
  rcases List.mem_append.mp he with he | he
  · rcases List.mem_append.mp he with he | he
    · exact hshown _ e he
    · exact hshown _ e he
  · split at he
    · split at he
      · cases he
      · exact ⟨_, List.mem_singleton.mp he⟩
    · cases he

theorem compiled_single (s : State) (t : TaskId) {w : Work} (h : w.stage = .single)
    (report : Option Report) :
    s.compiled t w report = (s.releaseRunner w.runner).finish t (.ok (.report report)) := by
  simp [compiled, settle, h]

theorem compiled_all (s : State) (t : TaskId) {w : Work} {done : List (Path × Option Report)}
    (h : w.stage = .all done) (report : Option Report) :
    s.compiled t w report =
      s.runFolders t w.runner (.all ((w.folder, report) :: done)) true w.rest := by
  simp [compiled, settle, h]

/-- In a pass, the report is entered, and then come the folders after it. -/
theorem compiled_pass (s : State) (t : TaskId) {w : Work} (h : w.stage = .pass)
    (report : Option Report) :
    s.compiled t w report =
      match (s.releaseRunner w.runner).enterReport w.folder report with
      | (s, .ok ()) => s.runFolders t ((s.session.bind (·.runner)).getD w.runner) .pass false w.rest
      | (s, .error e) => s.endPass t (.error e) := by
  unfold compiled settle
  rw [h]
  simp only
  rcases (s.releaseRunner w.runner).enterReport w.folder report with ⟨s', r⟩
  cases r <;> rfl

/-- All that a task can do about the first of its folders up to the point where it waits, ends, or
goes on without a report. -/
inductive Begins (s : State) (t : TaskId) (w : Work) : State → Prop where
  | lost {s' : State} (aside : Aside s s') (none : s.runners[w.runner]? = none) : Begins s t w s'
  | turn {s' : State} (aside : Aside s s') : Begins s t w (s'.setTask t (.runnerTurn w))
  | launch {s' : State} (aside : Aside s s') : Begins s t w (s'.setTask t (.runnerLaunching w))
  | fail {s' : State} (aside : Aside s s') (e : Fault) : Begins s t w (s'.failWork t w e)
  | skip {s' : State} (aside : Aside s s') : Begins s t w (s'.compiled t w none)

theorem runFolders_cons (s : State) (t : TaskId) (runner : RunnerId) (stage : BatchStage)
    (owned : Bool) (folder : Path) (rest : List Path) :
    Begins s t ⟨runner, folder, rest, stage⟩
      (s.runFolders t runner stage owned (folder :: rest)) := by
  rw [runFolders]
  generalize hs1 : (if owned then s
    else s.modifyRunner runner fun r => { r with lock := r.lock.acquire t }) = s1
  have hlocked : Aside s s1 := by
    rw [← hs1]
    split
    · exact .refl s
    · exact .modifyRunner s _ _
  split
  · next hrunner =>
      refine .lost hlocked ?_
      rw [List.getElem?_eq_none_iff] at hrunner ⊢
      rwa [← hlocked.runners]
  · next r _ =>
      split
      · exact .turn hlocked
      · have hbegun := hlocked.trans (.beginCompile s1 r.settings folder)
        split
        · next s2 hbegin =>
            rw [hbegin] at hbegun
            exact .launch hbegun
        · next s2 e hbegin =>
            rw [hbegin] at hbegun
            rcases invocationFailed_cases s2 folder e with ⟨entry, hfailed⟩ | hfailed
            · simp only [hfailed]
              exact .skip (hbegun.trans (.emit s2 entry))
            · simp only [hfailed]
              exact .fail hbegun e

end State

end Datapack.Machine
