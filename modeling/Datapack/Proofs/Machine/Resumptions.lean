import Datapack.Machine.Step

/-! What tasks wait for. An event that concerns a task does nothing, or the task waited for it and
goes on with the one function that follows. -/

namespace Datapack.Machine

/-- The task that an event concerns. -/
def Event.task? : Event → Option TaskId
  | proceed t | launched t _ | flushed t _ | exitSeen t | timeout t | waitFailed t _ => some t
  | _ => none

/-- How a task goes on when the event comes that it waits for. -/
inductive Resumes (s : State) (t : TaskId) : Task → Event → State → Prop where
  | turn (job : Job) (owns : s.session.bind (·.lock.owner) = some t) :
      Resumes s t (.compileTurn job) (.proceed t) (s.runJob t job)
  | writeTurn (i : SupervisorId) (command : String) (stage : SendStage)
      (owns : s.supervisors[i]?.bind (·.writeLock.owner) = some t) :
      Resumes s t (.writeTurn i command stage) (.proceed t) (s.writeCommand t i command stage)
  | runnerTurn (w : Work) (owns : s.runners[w.runner]?.bind (·.lock.owner) = some t) :
      Resumes s t (.runnerTurn w) (.proceed t)
        (s.runFolders t w.runner w.stage true (w.folder :: w.rest))
  | emptyTurn (i : RunnerId) (owns : s.runners[i]?.bind (·.lock.owner) = some t) :
      Resumes s t (.emptyTurn i) (.proceed t) (s.runFolders t i (.all []) true [])
  | reaped (i : SupervisorId) (p : ProcessId) (stage : StopStage) :
      Resumes s t (.reaping i p stage) (.proceed t) (s.endReap t i p stage)
  | launched (i : SupervisorId) (stage : LaunchStage) (result : Except Fault Unit) :
      Resumes s t (.launching i stage) (.launched t result) (s.launched t i stage result)
  | oneShotLaunched (w : Work) (result : Except Fault Unit) :
      Resumes s t (.runnerLaunching w) (.launched t result) (s.oneShotLaunched t w result)
  | flushed (i : SupervisorId) (p : ProcessId) (command : String) (stage : SendStage)
      (flush : State.Flush) :
      Resumes s t (.flushing i p command stage) (.flushed t flush)
        (s.flushed t i p command stage flush)
  | exited (i : SupervisorId) (p : ProcessId) (killed : Bool) (stage : StopStage)
      (dead : s.isAlive p = false) :
      Resumes s t (.exiting i p killed stage) (.exitSeen t) (s.beginReap t i stage)
  | oneShotExited (p : ProcessId) (w : Work) (dead : s.isAlive p = false) :
      Resumes s t (.running p w) (.exitSeen t) (s.oneShotExited t p w)
  | oneShotKilled (p : ProcessId) (w : Work) (dead : s.isAlive p = false) :
      Resumes s t (.runnerReaping p w) (.exitSeen t) (s.compileFailed t w .compileTimeout)
  | stubborn (i : SupervisorId) (p : ProcessId) (stage : StopStage) :
      Resumes s t (.exiting i p false stage) (.timeout t) (s.killStubborn t i p stage)
  | slow (p : ProcessId) (w : Work) :
      Resumes s t (.running p w) (.timeout t) (s.oneShotTimeout t p w)
  | lost (p : ProcessId) (w : Work) (error : OsError) :
      Resumes s t (.running p w) (.waitFailed t error) (s.compileFailed t w (.os error))

theorem Resumes.not_finished {s s' : State} {t : TaskId} {r : Except Fault Answer} {e : Event} :
    ¬Resumes s t (.finished r) e s' := nofun

/-- An event that concerns a task does nothing if the task does not wait for it, or not yet. -/
theorem State.step_resumes {s : State} {e : Event} {t : TaskId} (he : e.task? = some t) :
    s.step e = s ∨ ∃ task, s.tasks[t]? = some task ∧ Resumes s t task e (s.step e) := by
  cases e with
  | proceed t' =>
      cases he
      simp only [step, proceed]
      split
      · next job htask =>
          split
          · next howns => exact .inr ⟨_, htask, .turn job howns⟩
          · exact .inl rfl
      · next i command stage htask =>
          split
          · next howns => exact .inr ⟨_, htask, .writeTurn i command stage howns⟩
          · exact .inl rfl
      · next w htask =>
          split
          · next howns => exact .inr ⟨_, htask, .runnerTurn w howns⟩
          · exact .inl rfl
      · next i htask =>
          split
          · next howns => exact .inr ⟨_, htask, .emptyTurn i howns⟩
          · exact .inl rfl
      · next i p stage htask => exact .inr ⟨_, htask, .reaped i p stage⟩
      · exact .inl rfl
  | launched t' result =>
      cases he
      simp only [step]
      split
      · next i stage htask => exact .inr ⟨_, htask, .launched i stage result⟩
      · next w htask => exact .inr ⟨_, htask, .oneShotLaunched w result⟩
      · exact .inl rfl
  | flushed t' flush =>
      cases he
      simp only [step]
      split
      · next i p command stage htask => exact .inr ⟨_, htask, .flushed i p command stage flush⟩
      · exact .inl rfl
  | exitSeen t' =>
      cases he
      simp only [step, exitSeen]
      split
      · next i p killed stage htask =>
          split
          · exact .inl rfl
          · next hdead =>
              exact .inr ⟨_, htask, .exited i p killed stage (Bool.eq_false_iff.mpr hdead)⟩
      · next p w htask =>
          split
          · exact .inl rfl
          · next hdead =>
              exact .inr ⟨_, htask, .oneShotExited p w (Bool.eq_false_iff.mpr hdead)⟩
      · next p w htask =>
          split
          · exact .inl rfl
          · next hdead =>
              exact .inr ⟨_, htask, .oneShotKilled p w (Bool.eq_false_iff.mpr hdead)⟩
      · exact .inl rfl
  | timeout t' =>
      cases he
      simp only [step, State.timeout]
      split
      · next i p stage htask => exact .inr ⟨_, htask, .stubborn i p stage⟩
      · next p w htask => exact .inr ⟨_, htask, .slow p w⟩
      · exact .inl rfl
  | waitFailed t' error =>
      cases he
      simp only [step]
      split
      · next p w htask => exact .inr ⟨_, htask, .lost p w error⟩
      · exact .inl rfl
  | _ => cases he

/-- A task that has finished waits for nothing. -/
theorem State.step_of_finished {s : State} {e : Event} {t : TaskId} {r : Except Fault Answer}
    (he : e.task? = some t) (h : s.tasks[t]? = some (.finished r)) : s.step e = s := by
  rcases step_resumes he with hsame | ⟨task, htask, hresumes⟩
  · exact hsame
  · rw [h, Option.some.injEq] at htask
    exact absurd (htask ▸ hresumes) Resumes.not_finished

end Datapack.Machine
