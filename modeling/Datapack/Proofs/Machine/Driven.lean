import Datapack.Proofs.Machine.Drives

/-! What an event does to the compilers. It makes at most one task go on, to the next point where
the task waits, and compilers are driven by that task alone. A request changes what it has to change
before its task runs: a start the root and perhaps the runners, new settings only the settings. -/

namespace Datapack.Machine

open Diagnostic Text

/-! ### Whom an event is about -/

def Event.flushes : Event → Bool
  | flushed _ _ => true
  | _ => false

/-- The mode of a session whose compilers a request is about, unless it asks the session. -/
def Request.mode? : Request → Option CompilerMode
  | spawn | close | kill | command _ | startAgain => some .persistent
  | supervisorStart _ | supervisorStop _ | supervisorKill _ | supervisorCommand _ _ =>
    some .persistent
  | runFolder _ _ | runAll _ _ => some .batch
  | start _ | restart | save _ | compile | gameStarted _ | gameStopped | closeDocument _ => none
  | configure _ | override _ => none

/-- The requests that start a supervisor as it is. -/
def Request.relaunches : Request → Bool
  | startAgain | supervisorStart _ => true
  | _ => false

/-- The mode of a session whose compilers an event is about. -/
def State.modeAt? (s : State) : Event → Option CompilerMode
  | .call request => request.mode?
  | e => e.task?.bind fun t => s.tasks[t]?.bind Task.mode?

/-- What is set up before a task runs: the task of a request is new, and so may be the runner of a
session that starts, which has the settings of the session. -/
structure Prepared (s : State) (e : Event) (t : TaskId) (s₁ : State) : Prop where
  trace : s₁.trace = s.trace
  files : s₁.files = s.files
  tasks : s₁.tasks = s.tasks ∧ t < s.tasks.length ∨
    s₁.tasks = s.tasks ++ [.finished (.ok .nothing)] ∧ t = s.tasks.length
  runners : ∀ settings ∈ s₁.runners.map (·.settings),
    settings ∈ s.runners.map (·.settings) ∨
      ∃ root, e = .call (.start root) ∧ ∃ old, s.orders = some (settings, old)

theorem Prepared.lt_length {s s₁ : State} {e : Event} {t : TaskId} (h : Prepared s e t s₁) :
    t < s₁.tasks.length := by
  rcases h.tasks with ⟨hsame, ht⟩ | ⟨hnew, ht⟩
  · rwa [hsame]
  · rw [hnew, ht, List.length_append]
    exact Nat.lt_succ_self _

/-- What an event does: it does not apply, no task takes part, or one task goes on. -/
inductive Driven (s : State) (e : Event) : State → Prop where
  | idle (unmoved : e.flushes → ∀ t, s.actor? e = some t → s.Rests t) : Driven s e s
  | aside {s' : State} {es : List Effect} (nobody : s.actor? e = none) (tasks : s'.tasks = s.tasks)
      (orders : s'.orders = s.orders)
      (runners : s'.runners.map (·.settings) = s.runners.map (·.settings))
      (trace : s'.trace = s.trace ++ es.toArray) (undriven : ∀ e ∈ es, e.drives = false) :
      Driven s e s'
  | runs {s₁ s' : State} {t : TaskId} (actor : s.actor? e = some t) (prepared : Prepared s e t s₁)
      (resting : e.flushes ∨ s.Rests t)
      (drives : Drives ((s.modeAt? e).getD (s₁.mode?.getD .persistent)) t s₁ s') : Driven s e s'
  | relaunches {s₁ s' : State} {t : TaskId}
      (asked : ∃ request, e = .call request ∧ request.relaunches) (actor : s.actor? e = some t)
      (fresh : t = s.tasks.length) (prepared : Prepared s e t s₁) (steady : Steady s₁ s')
      (i : SupervisorId) (launch : Launch) :
      Driven s e ((s'.emit (.launch launch)).setTask t (.launching i .direct))

/-! ### Tasks that go on -/

theorem State.rests_of_task {s : State} {t : TaskId} {task : Task} (htask : s.tasks[t]? = some task)
    (hrest : task.flush? = none) : s.Rests t := by
  intro task' htask'
  rw [htask, Option.some.injEq] at htask'
  rwa [← htask']

/-- A task goes on to where it waits again. -/
theorem Resumes.drives {s s' : State} {t : TaskId} {task : Task} {e : Event}
    (h : Resumes s t task e s') (htask : s.tasks[t]? = some task) :
    (e.flushes ∨ task.flush? = none) ∧ Drives (s.modeOf task) t s s' := by
  have hsteady := Steady.refl s
  have hresting := State.rests_of_task htask
  cases h with
  | turn job => exact ⟨.inr rfl, hsteady.runJob (hresting rfl) job⟩
  | writeTurn i command stage => exact ⟨.inr rfl, hsteady.writeCommand t i command stage⟩
  | runnerTurn w => exact ⟨.inr rfl, hsteady.runFolders (hresting rfl) _ _ _ _⟩
  | emptyTurn i => exact ⟨.inr rfl, hsteady.runFolders (hresting rfl) _ _ _ _⟩
  | reaped i p stage => exact ⟨.inr rfl, hsteady.endReap t i p stage⟩
  | launched i stage result => exact ⟨.inr rfl, hsteady.launched _ t i stage result⟩
  | oneShotLaunched w result => exact ⟨.inr rfl, hsteady.oneShotLaunched (hresting rfl) w result⟩
  | flushed i p command stage flush => exact ⟨.inl rfl, hsteady.flushed t i p command stage flush⟩
  | exited i p killed stage => exact ⟨.inr rfl, hsteady.beginReap t i stage⟩
  | oneShotExited p w => exact ⟨.inr rfl, hsteady.oneShotExited (hresting rfl) p w⟩
  | oneShotKilled p w => exact ⟨.inr rfl, hsteady.compileFailed (hresting rfl) w _⟩
  | stubborn i p stage => exact ⟨.inr rfl, hsteady.killStubborn t i p stage⟩
  | slow p w => exact ⟨.inr rfl, hsteady.oneShotTimeout t p w⟩
  | lost p w error => exact ⟨.inr rfl, hsteady.compileFailed (hresting rfl) w _⟩

/-- A task that waits for a flush goes on when it ends. -/
theorem Resumes.of_flushes {s : State} {t : TaskId} {task : Task} {e : Event}
    (he : e.task? = some t) (hflushes : e.flushes) (htask : s.tasks[t]? = some task)
    (hflush : task.flush? ≠ none) : Resumes s t task e (s.step e) := by
  cases e <;> cases hflushes
  cases he
  cases task <;> first | exact absurd rfl hflush | skip
  simp only [State.step, htask]
  exact .flushed _ _ _ _ _

/-- A task that an event concerns does not take the event, or goes on to where it waits again. -/
theorem State.drives_task {s : State} {e : Event} {t : TaskId} {task : Task} (he : e.task? = some t)
    (htask : s.tasks[t]? = some task) :
    s.step e = s ∧ (e.flushes → task.flush? = none) ∨
      (e.flushes ∨ task.flush? = none) ∧ Drives (s.modeOf task) t s (s.step e) := by
  by_cases hflush : e.flushes ∧ task.flush? ≠ none
  · exact .inr ((Resumes.of_flushes he hflush.1 htask hflush.2).drives htask)
  · rcases State.step_resumes he with hsame | ⟨task', htask', hresumes⟩
    · exact .inl ⟨hsame, fun hflushes => not_not.mp fun hne => hflush ⟨hflushes, hne⟩⟩
    · rw [htask, Option.some.injEq] at htask'
      subst htask'
      exact .inr (hresumes.drives htask)

/-! ### Requests -/

/-- A new task, and nothing else. -/
theorem Prepared.addTask (s : State) (e : Event) :
    Prepared s e s.tasks.length { s with tasks := s.tasks ++ [.finished (.ok .nothing)] } :=
  ⟨rfl, rfl, .inr ⟨rfl, rfl⟩, fun _ hsettings => .inl hsettings⟩

theorem Prepared.modifySession {s s₁ : State} {e : Event} {t : TaskId} (h : Prepared s e t s₁)
    (f : Session → Session) : Prepared s e t (s₁.modifySession f) :=
  ⟨h.trace, h.files, h.tasks, h.runners⟩

/-- A new task has not waited for a flush. -/
theorem Prepared.resting {s s₁ : State} {e : Event} (h : Prepared s e s.tasks.length s₁) :
    s₁.Rests s.tasks.length := by
  intro task htask
  rcases h.tasks with ⟨_, ht⟩ | ⟨hnew, _⟩
  · exact absurd ht (Nat.lt_irrefl _)
  · rw [hnew, List.getElem?_concat_length, Option.some.injEq] at htask
    rw [← htask]
    rfl

/-- What a start sets up before its task runs: the root, and in a session of one-shot compiles a new
runner with the settings of the session. -/
theorem Prepared.startSession {s s₀ : State} {t : TaskId} {root : Option Path}
    (h : Prepared s (.call (.start root)) t s₀) (horders : s₀.orders = s.orders) :
    ∃ s₁, Prepared s (.call (.start root)) t s₁ ∧
      Drives (s₁.mode?.getD .persistent) t s₁ (s₀.startSession t root) := by
  unfold State.startSession
  split
  · exact ⟨s₀, h, (Steady.refl s₀).finish _ t _⟩
  · next session hsession =>
      have hrooted := h.modifySession fun q => { q with root }
      have hmode : (s₀.modifySession fun q => { q with root }).mode? =
          some session.settings.mode := by
        rw [State.mode?, State.orders, State.modifySession, hsession]
        rfl
      have hsteady := Steady.refl (s₀.modifySession fun q => { q with root })
      generalize s₀.modifySession (fun q => { q with root }) = s₁ at hrooted hmode hsteady
      have hgrown : Prepared s (.call (.start root)) t
          { s₁ with runners := s₁.runners ++ [⟨session.settings, {}⟩] } := by
        refine ⟨hrooted.trace, hrooted.files, hrooted.tasks, fun settings hsettings => ?_⟩
        rw [List.map_append] at hsettings
        rcases List.mem_append.mp hsettings with hold | hnew
        · exact hrooted.runners settings hold
        · rw [List.mem_singleton.mp hnew, ← horders, State.orders, hsession]
          exact .inr ⟨root, rfl, session.root, rfl⟩
      simp only
      split
      · exact ⟨_, hgrown.modifySession _, (Steady.emit (.refl _) rfl).finish _ t _⟩
      · exact ⟨s₁, hrooted, (hsteady.emit rfl).finish _ t _⟩
      · next hpersistent =>
          refine ⟨s₁, hrooted, ?_⟩
          rw [hmode, hpersistent]
          exact hsteady.launchCompiler t _

/-- A request sets up what it needs, and then its new task runs. -/
theorem State.driven_call (s : State) (request : Request) :
    Driven s (.call request) (s.call request) := by
  have hdriven {s₁ s' : State} (hprepared : Prepared s (.call request) s.tasks.length s₁)
      (hdrives : Drives (request.mode?.getD (s₁.mode?.getD .persistent)) s.tasks.length s₁ s') :
      Driven s (.call request) s' :=
    .runs rfl hprepared (.inr (by simp [State.Rests])) hdrives
  have hprepared := Prepared.addTask s (.call request)
  have horders : ({ s with tasks := s.tasks ++ [.finished (.ok .nothing)] } : State).orders =
    s.orders := rfl
  unfold State.call
  generalize ({ s with tasks := s.tasks ++ [.finished (.ok .nothing)] } : State) = s₁
    at hprepared horders
  have h := Steady.refl s₁
  have hresting := hprepared.resting
  have hagain {s' : State} {i : SupervisorId} (hasked : request.relaunches)
      (hlaunches : Drives .persistent s.tasks.length s₁ s' ∨
        ∃ s'' launch, Steady s₁ s'' ∧
          s' = (s''.emit (.launch launch)).setTask s.tasks.length (.launching i .direct)) :
      Driven s (.call request) s' := by
    have hmode : request.mode? = some .persistent := by
      cases request <;> first | rfl | cases hasked
    rcases hlaunches with hdrives | ⟨s'', launch, hsteady, rfl⟩
    · exact hdriven hprepared (by rwa [hmode])
    · exact .relaunches ⟨request, rfl, hasked⟩ rfl rfl hprepared hsteady i launch
  have hconfigured (settings : Settings) (hmode : request.mode? = none) :
      Driven s (.call request)
        ((s₁.modifySession fun q => { q with settings }).done s.tasks.length) :=
    hdriven (hprepared.modifySession _) ((Steady.refl _).finish _ _ _)
  cases request with
  | start root =>
      obtain ⟨s₂, hstarted, hdrives⟩ := hprepared.startSession horders
      exact hdriven hstarted hdrives
  | spawn => exact hdriven hprepared (h.launchCompiler _ _)
  | restart => exact hdriven hprepared (h.beginRestart hresting)
  | close => exact hdriven hprepared (h.closeSession _)
  | kill => exact hdriven hprepared (h.killSession.finish .persistent _ _)
  | save uri => exact hdriven hprepared (h.beginJob hresting (.save uri))
  | compile => exact hdriven hprepared (h.beginJob hresting .compile)
  | gameStarted path =>
      refine hdriven hprepared (Steady.finish ((h.emit rfl).modifySession ?_) _ _ _)
      exact fun _ => rfl
  | gameStopped =>
      refine hdriven hprepared (Steady.finish ((h.emit rfl).modifySession ?_) _ _ _)
      exact fun _ => rfl
  | closeDocument uri =>
      have hclosed := h.closeDocument uri
      simp only
      split
      · next s' hs' =>
          rw [hs'] at hclosed
          exact hdriven hprepared (hclosed.finish _ _ _)
      · next s' e hs' =>
          rw [hs'] at hclosed
          exact hdriven hprepared (hclosed.finish _ _ _)
  | configure settings => exact hconfigured settings rfl
  | override options =>
      simp only
      split
      · next settings _ => exact hconfigured settings rfl
      · exact hdriven hprepared (h.finish _ _ _)
      · exact hdriven hprepared (h.finish _ _ _)
  | command text =>
      simp only
      split
      · exact hdriven hprepared (h.beginSend _ _ _ _)
      · exact hdriven hprepared (h.finish _ _ _)
  | startAgain =>
      simp only
      split
      · exact hagain rfl (h.beginLaunch hresting _)
      · exact hdriven hprepared (h.finish _ _ _)
  | supervisorStart i => exact hagain rfl (h.beginLaunch hresting i)
  | supervisorStop i => exact hdriven hprepared (h.beginStop _ i _)
  | supervisorKill i => exact hdriven hprepared ((h.killSupervised i).finish _ _ _)
  | supervisorCommand i text => exact hdriven hprepared (h.beginSend _ i _ _)
  | runFolder i folder => exact hdriven hprepared (h.runFolders hresting _ _ _ _)
  | runAll i folders =>
      have hacquired := h.modifyRunner i
        (f := fun r => { r with lock := r.lock.acquire s.tasks.length }) fun _ => rfl
      simp only
      split
      · exact hdriven hprepared (hacquired.runFolders hresting _ _ _ _)
      · cases folders with
        | nil => exact hdriven hprepared (.rests hacquired (by rintro _ ⟨⟩; rfl) rfl)
        | cons folder rest => exact hdriven hprepared (.rests hacquired (by rintro _ ⟨⟩; rfl) rfl)

/-! ### All events -/

/-- What no task takes part in launches and writes nothing. -/
theorem State.steady_aside (s : State) {e : Event} (htask : e.task? = none)
    (hcall : e.request? = none) :
    (s.step e).tasks = s.tasks ∧ (s.step e).orders = s.orders ∧
      (s.step e).runners.map (·.settings) = s.runners.map (·.settings) ∧
      ∃ es : List Effect, (s.step e).trace = s.trace ++ es.toArray ∧
        ∀ e ∈ es, e.drives = false := by
  have hsteady {s' : State} (h : Steady s s') : s'.tasks = s.tasks ∧ s'.orders = s.orders ∧
      s'.runners.map (·.settings) = s.runners.map (·.settings) ∧
      ∃ es : List Effect, s'.trace = s.trace ++ es.toArray ∧ ∀ e ∈ es, e.drives = false :=
    ⟨h.tasks, h.orders, h.runners, h.trace⟩
  have h := Steady.refl s
  cases e with
  | read p name => exact hsteady (h.read p name)
  | notice p => exact hsteady (h.noticeExit p)
  | output p name bytes =>
      simp only [State.step]
      split
      · exact hsteady (h.modifyProcess p _)
      · exact hsteady h
  | exit p code =>
      simp only [State.step]
      split
      · exact hsteady (h.modifyProcess p _)
      · exact hsteady h
  | breakOutput p name => exact hsteady (h.modifyProcess p _)
  | writeFile path bytes =>
      simp only [State.step]
      split
      · exact ⟨rfl, rfl, rfl, [], by simp, by simp⟩
      · exact hsteady h
  | call request => cases hcall
  | _ => cases htask

/-- An event that concerns a task: the task does not take it, or goes on. -/
theorem State.driven_task {s : State} {e : Event} {t : TaskId} (he : e.task? = some t) :
    Driven s e (s.step e) := by
  have hactor := (State.actor?_of_task? (s := s) he).1
  have hidle (hrests : e.flushes → s.Rests t) (hsame : s.step e = s) : Driven s e (s.step e) := by
    rw [hsame]
    refine .idle fun hflushes t' ht' => ?_
    rw [hactor, Option.some.injEq] at ht'
    exact ht' ▸ hrests hflushes
  cases htask : s.tasks[t]? with
  | none => exact hidle (fun _ => by simp [State.Rests, htask]) (State.ignores_of_none htask he).step
  | some task =>
      have hrests := State.rests_of_task htask
      rcases State.drives_task he htask with ⟨hsame, hrest⟩ | ⟨hrest, hdrives⟩
      · exact hidle (fun hflushes => hrests (hrest hflushes)) hsame
      · have hmode : s.modeAt? e = task.mode? := by
          cases e <;> cases he <;> simp [State.modeAt?, Event.task?, htask]
        have hprepared : Prepared s e t s :=
          ⟨rfl, rfl, .inl ⟨rfl, (List.getElem?_eq_some_iff.mp htask).1⟩,
            fun _ hsettings => .inl hsettings⟩
        refine .runs hactor hprepared (hrest.imp_right hrests) ?_
        rw [hmode]
        exact hdrives

/-- What any event does. -/
theorem State.driven_step (s : State) (e : Event) : Driven s e (s.step e) := by
  cases hevent : e.task? with
  | some t => exact State.driven_task hevent
  | none =>
      cases hcall : e.request? with
      | some request =>
          cases e <;> cases hcall
          exact s.driven_call request
      | none =>
          obtain ⟨htasks, horders, hrunners, es, htrace, hes⟩ := s.steady_aside hevent hcall
          refine .aside ?_ htasks horders hrunners htrace hes
          cases e with
          | call request => cases hcall
          | _ => exact hevent

end Datapack.Machine
