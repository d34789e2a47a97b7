import Datapack.Proofs.Machine.BatchPasses
import Datapack.Proofs.Machine.Saves
import Datapack.Proofs.Machine.Tells

/-! Sessions that keep a compiler running. Whatever they are asked for and whatever their processes
do, a process belongs to the one supervisor that launched it, a task that is in the middle of a
pass or of a restart has the compile lock, and a command never waits for another one. -/

namespace Datapack.Machine

open Diagnostic Text

/-! ### Requests -/

/-- What a client asks of its session. -/
def Request.ofSession : Request → Bool
  | start _ | restart | close | kill | save _ | compile => true
  | gameStarted _ | gameStopped | closeDocument _ => true
  | _ => false

/-- The job of a request that needs the compile lock. -/
def Request.job? : Request → Option Job
  | save uri => some (.save uri)
  | compile => some .compile
  | restart => some .restart
  | _ => none

/-- The documents that the pass of a request clears in any case. -/
def Request.cleared : Request → List String
  | save uri => [uri]
  | _ => []

namespace Event

def request? : Event → Option Request
  | call request => some request
  | _ => none

def ofSession (e : Event) : Bool := e.request?.all (·.ofSession)

end Event

/-- The requests that events bring, in order. -/
def requests (events : List Event) : List Request := events.filterMap Event.request?

@[simp] theorem requests_nil : requests [] = [] := rfl

theorem requests_cons (e : Event) (events : List Event) :
    requests (e :: events) = e.request?.toList ++ requests events := by
  cases hcall : e.request? <;> simp [requests, hcall]

@[simp] theorem requests_append (events later : List Event) :
    requests (events ++ later) = requests events ++ requests later := by
  simp [requests]

/-! ### Tasks -/

namespace State

/-- No process was created for the supervisor yet. -/
def Unlaunched (s : State) (i : SupervisorId) : Prop :=
  i < s.supervisors.length ∧ ∀ p, s.ownerOf? p ≠ some i

/-- The process of the supervisor has ended. -/
def Dead (s : State) (i : SupervisorId) : Prop :=
  ∃ p, s.ownerOf? p = some i ∧ s.isAlive p = false

/-- The write lock of a supervisor is free, or the task has it whose command is being flushed. -/
def Writes (s : State) (i : SupervisorId) (lock : Lock) : Prop :=
  lock = {} ∨ ∃ t p command stage,
    s.tasks[t]? = some (.flushing i p command stage) ∧ lock = ⟨some t, []⟩

end State

/-- A request that stops a compiler, and what follows. -/
inductive Stops (s : State) (t : TaskId) : Request → StopStage → Prop where
  | close : Stops s t .close .close
  | restart (turn : s.turn = some t) : Stops s t .restart .restart

theorem Stops.imp {s s' : State} {t : TaskId} {request : Request} {stage : StopStage}
    (h : Stops s t request stage) (hturn : s.turn = some t → s'.turn = some t) :
    Stops s' t request stage := by
  cases h with
  | close => exact .close
  | restart ht => exact .restart (hturn ht)

/-- A request that launches a compiler, and what follows. -/
inductive Launches (s : State) (t : TaskId) : Request → LaunchStage → Prop where
  | start (root : Path) : Launches s t (.start (some root)) .start
  | restart (turn : s.turn = some t) : Launches s t .restart .restart

theorem Launches.imp {s s' : State} {t : TaskId} {request : Request} {stage : LaunchStage}
    (h : Launches s t request stage) (hturn : s.turn = some t → s'.turn = some t) :
    Launches s' t request stage := by
  cases h with
  | start root => exact .start root
  | restart ht => exact .restart (hturn ht)

/-- A request whose pass commands the compiler: what follows a command, and the command. -/
inductive Sends : Request → SendStage → String → Prop where
  | saveErrors (uri : String) : Sends (.save uri) .saveErrors State.errorsCommand
  | saveOutput (uri path : String) : Sends (.save uri) .saveOutput (State.compileCommand path)
  | compileErrors (path : String) : Sends .compile (.compileErrors path) State.errorsCommand
  | compileOutput (path : String) : Sends .compile .compileOutput (State.compileCommand path)

/-- What the task of a request may be doing. In the middle of a pass or of a restart it has the
compile lock. -/
inductive Allowed (s : State) (t : TaskId) (request : Request) : Task → Prop where
  | finished (r : Except Fault Answer) : Allowed s t request (.finished r)
  | waiting {job : Job} (asks : request.job? = some job) : Allowed s t request (.compileTurn job)
  | launching {i : SupervisorId} {stage : LaunchStage} (launches : Launches s t request stage)
      (unlaunched : s.Unlaunched i) : Allowed s t request (.launching i stage)
  | exiting {i : SupervisorId} {p : ProcessId} {killed : Bool} {stage : StopStage}
      (stops : Stops s t request stage) (stopping : s.stopping i) (owner : s.ownerOf? p = some i) :
      Allowed s t request (.exiting i p killed stage)
  | reaping {i : SupervisorId} {p : ProcessId} {stage : StopStage}
      (stops : Stops s t request stage) (stopping : s.stopping i) (dead : s.Dead i) :
      Allowed s t request (.reaping i p stage)
  | flushing {i : SupervisorId} {p : ProcessId} {command : String} {stage : SendStage}
      (sends : Sends request stage command) (turn : s.turn = some t)
      (owner : s.ownerOf? p = some i) : Allowed s t request (.flushing i p command stage)

/-- A session that keeps a compiler running, with tasks that do what they may for the requests they
came from. -/
structure Disciplined (asked : List Request) (s : State) : Prop where
  asks : s.tasks.length = asked.length
  resident : ∃ q, s.session = some q ∧ q.settings.mode = .persistent
  sinks : ∀ sup ∈ s.supervisors, sup.sink = .session s.generation
  owned : ∀ p < s.processes.length, ∃ i < s.supervisors.length, s.ownerOf? p = some i
  single : ∀ {p p' i}, s.ownerOf? p = some i → s.ownerOf? p' = some i → p = p'
  process : ∀ {i p}, s.processOf? i = some p → s.ownerOf? p = some i
  allowed : ∀ {t request task}, asked[t]? = some request → s.tasks[t]? = some task →
    Allowed s t request task
  launches : ∀ {t t' : TaskId} {i stage stage'}, s.tasks[t]? = some (.launching i stage) →
    s.tasks[t']? = some (.launching i stage') → t = t'
  writes : ∀ {i sup}, s.supervisors[i]? = some sup → s.Writes i sup.writeLock

/-- What is allowed stays so while the lock is kept, no process changes hands, and none is created
for a supervisor that is to be launched. -/
theorem Allowed.imp {s s' : State} {t : TaskId} {request : Request} {task : Task}
    (h : Allowed s t request task)
    (hturn : (∀ r, task ≠ .finished r) → s.turn = some t → s'.turn = some t)
    (howner : ∀ p i, s.ownerOf? p = some i → s'.ownerOf? p = some i)
    (hstopping : ∀ i, s.stopping i → s'.stopping i)
    (hdead : ∀ i, s.Dead i → s'.Dead i)
    (hunlaunched : ∀ i stage, task = .launching i stage → s.Unlaunched i → s'.Unlaunched i) :
    Allowed s' t request task := by
  cases h with
  | finished r => exact .finished r
  | waiting hjob => exact .waiting hjob
  | launching hlaunch hi =>
      exact .launching (hlaunch.imp (hturn nofun)) (hunlaunched _ _ rfl hi)
  | exiting hstop hi hp =>
      exact .exiting (hstop.imp (hturn nofun)) (hstopping _ hi) (howner _ _ hp)
  | reaping hstop hi hi' =>
      exact .reaping (hstop.imp (hturn nofun)) (hstopping _ hi) (hdead _ hi')
  | flushing hsends ht hp => exact .flushing hsends (hturn nofun ht) (howner _ _ hp)

/-! ### Views of a process that changes -/

namespace State

variable (s : State) (p : ProcessId) {f : Process → Process}

theorem ownerOf?_modifyProcess (hf : ∀ q, (f q).owner = q.owner) (p' : ProcessId) :
    (s.modifyProcess p f).ownerOf? p' = s.ownerOf? p' := by
  simp only [ownerOf?, modifyProcess, List.getElem?_modify]
  split <;> cases s.processes[p']? <;> simp [hf]

theorem isAlive_of_modifyProcess (hf : ∀ q, (f q).isAlive → q.isAlive) {p' : ProcessId}
    (h : (s.modifyProcess p f).isAlive p') : s.isAlive p' := by
  simp only [isAlive, modifyProcess, List.getElem?_modify] at h ⊢
  cases hp : s.processes[p']? with
  | none => simp [hp] at h
  | some q =>
      rw [hp] at h
      split at h
      · simpa using hf q (by simpa using h)
      · simpa using h

theorem watched_of_modifyProcess (hf : ∀ q, (f q).watched → q.watched) {p' : ProcessId}
    (h : (s.modifyProcess p f).watched p') : s.watched p' := by
  simp only [watched, modifyProcess, List.getElem?_modify] at h ⊢
  cases hp : s.processes[p']? with
  | none => simp [hp] at h
  | some q =>
      rw [hp] at h
      split at h
      · simpa using hf q (by simpa using h)
      · simpa using h

end State

namespace Disciplined

variable {asked : List Request} {s s' : State} {t : TaskId} {request : Request} {task : Task}

theorem request_of_task (h : Disciplined asked s) (htask : s.tasks[t]? = some task) :
    ∃ request, asked[t]? = some request ∧ Allowed s t request task := by
  have ht : t < asked.length := h.asks ▸ (List.getElem?_eq_some_iff.mp htask).1
  exact ⟨asked[t], List.getElem?_eq_getElem ht, h.allowed (List.getElem?_eq_getElem ht) htask⟩

/-- The process of a supervisor that was launched once is the only one it ever has. -/
theorem not_alive_of_dead (h : Disciplined asked s) {i : SupervisorId} (hdead : s.Dead i)
    {p : ProcessId} (hp : s.ownerOf? p = some i) : s.isAlive p = false := by
  obtain ⟨p', hp', hdead⟩ := hdead
  rwa [h.single hp hp']

theorem unlaunched (h : Disciplined asked s) {i : SupervisorId} {stage : LaunchStage}
    (htask : s.tasks[t]? = some (.launching i stage)) : s.Unlaunched i := by
  obtain ⟨_, _, hallowed⟩ := h.request_of_task htask
  cases hallowed with
  | launching _ hi => exact hi

theorem processOf?_eq_none (h : Disciplined asked s) {i : SupervisorId} (hi : s.Unlaunched i) :
    s.processOf? i = none := by
  rw [Option.eq_none_iff_forall_ne_some]
  exact fun p hp => hi.2 p (h.process hp)

/-- Only a task whose command is being flushed has a write lock. -/
theorem not_writing (h : Disciplined asked s) (htask : s.tasks[t]? = some task)
    (hquiet : ∀ i p command stage, task ≠ .flushing i p command stage) :
    ∀ sup ∈ s.supervisors, sup.writeLock.owner ≠ some t := by
  intro sup hsup howner
  obtain ⟨i, hi⟩ := List.getElem?_of_mem hsup
  rcases h.writes hi with hfree | ⟨t', p, command, stage, ht', hlock⟩
  · simp [hfree] at howner
  · rw [hlock, Option.some.injEq] at howner
    subst t'
    rw [htask, Option.some.injEq] at ht'
    exact hquiet i p command stage ht'

/-- While a pass has its turn and does not flush a command, all write locks are free. -/
theorem write_free (h : Disciplined asked s) (hturn : s.turn = some t)
    (htask : s.tasks[t]? = some task)
    (hquiet : ∀ i p command stage, task ≠ .flushing i p command stage) {i : SupervisorId}
    {sup : Supervisor} (hi : s.supervisors[i]? = some sup) : sup.writeLock = {} := by
  rcases h.writes hi with hfree | ⟨t', p, command, stage, ht', hlock⟩
  · exact hfree
  · obtain ⟨request, -, hallowed⟩ := h.request_of_task ht'
    cases hallowed with
    | flushing _ hturn' _ =>
        rw [hturn, Option.some.injEq] at hturn'
        subst t'
        rw [htask, Option.some.injEq] at ht'
        exact absurd ht' (hquiet i p command stage)

/-! ### Changes that keep the discipline -/

theorem tells (h : Disciplined asked s) (htells : Tells s s') (htasks : s'.tasks = s.tasks) :
    Disciplined asked s' := by
  refine ⟨htasks ▸ h.asks, ?_, ?_, ?_, ?_, ?_, ?_, ?_, ?_⟩
  · obtain ⟨q, hs, hmode⟩ := h.resident
    have hpost := htells.session
    rw [hs, Option.map_some, Option.map_eq_some_iff] at hpost
    obtain ⟨q', hs', hpost⟩ := hpost
    exact ⟨q', hs', (congrArg Prod.fst hpost).trans hmode⟩
  · rw [htells.supervisors, htells.generation]
    exact h.sinks
  · rw [htells.supervisors, htells.length_eq]
    simpa only [htells.ownerOf?_eq] using h.owned
  · intro p p' i hp hp'
    rw [htells.ownerOf?_eq] at hp hp'
    exact h.single hp hp'
  · intro i p hp
    rw [htells.processOf?_eq] at hp
    rw [htells.ownerOf?_eq]
    exact h.process hp
  · intro t request task hrequest htask
    rw [htasks] at htask
    refine (h.allowed hrequest htask).imp (fun _ hturn => htells.turn_eq ▸ hturn) ?_ ?_ ?_ ?_
    · intro p i hp
      rw [htells.ownerOf?_eq, hp]
    · intro i hi
      rwa [htells.stopping_eq]
    · rintro i ⟨p, hp, hdead⟩
      exact ⟨p, by rw [htells.ownerOf?_eq, hp], by rw [htells.isAlive_eq, hdead]⟩
    · intro i stage _ hi
      refine ⟨by rw [htells.supervisors]; exact hi.1, fun p => ?_⟩
      rw [htells.ownerOf?_eq]
      exact hi.2 p
  · rw [htasks]
    exact h.launches
  · simp only [State.Writes, htasks, htells.supervisors]
    exact h.writes

theorem emit (h : Disciplined asked s) (e : Effect) : Disciplined asked (s.emit e) :=
  ⟨h.asks, h.resident, h.sinks, h.owned, h.single, h.process,
    fun hrequest ht => (h.allowed hrequest ht).imp (fun _ ht => ht) (fun _ _ hp => hp)
      (fun _ hi => hi) (fun _ hi => hi) (fun _ _ _ hi => hi), h.launches, h.writes⟩

/-- A task may do anything that is allowed, if it has no write lock and does not launch what another
one launches. -/
theorem setTask (h : Disciplined asked s) (hrequest : asked[t]? = some request)
    (hallowed : Allowed s t request task)
    (hlaunch : ∀ i stage, task = Task.launching i stage → ∀ (t' : TaskId) stage',
      s.tasks[t']? ≠ some (.launching i stage'))
    (hquiet : ∀ sup ∈ s.supervisors, sup.writeLock.owner ≠ some t) :
    Disciplined asked (s.setTask t task) := by
  refine ⟨by simpa [State.setTask] using h.asks, h.resident, h.sinks, h.owned, h.single, h.process,
    ?_, ?_, ?_⟩
  · intro t' request' task' hrequest' ht'
    rcases Turns.eq_or_of_getElem?_set ht' with ⟨rfl, rfl⟩ | ⟨_, ht'⟩
    · rw [hrequest, Option.some.injEq] at hrequest'
      subst request'
      exact hallowed.imp (fun _ ht => ht) (fun _ _ hp => hp) (fun _ hi => hi) (fun _ hi => hi)
        (fun _ _ _ hi => hi)
    · exact (h.allowed hrequest' ht').imp (fun _ ht => ht) (fun _ _ hp => hp) (fun _ hi => hi)
        (fun _ hi => hi) (fun _ _ _ hi => hi)
  · intro t₁ t₂ i stage₁ stage₂ h₁ h₂
    rcases Turns.eq_or_of_getElem?_set h₁ with ⟨heq, heq₁⟩ | ⟨_, h₁⟩ <;>
      rcases Turns.eq_or_of_getElem?_set h₂ with ⟨heq', heq₂⟩ | ⟨_, h₂⟩
    · exact heq.trans heq'.symm
    · exact absurd h₂ (hlaunch i stage₁ heq₁.symm t₂ stage₂)
    · exact absurd h₁ (hlaunch i stage₂ heq₂.symm t₁ stage₁)
    · exact h.launches h₁ h₂
  · intro i sup hi
    rcases h.writes hi with hfree | ⟨t', p, command, stage, ht', hlock⟩
    · exact .inl hfree
    · have hne : t' ≠ t := by
        rintro rfl
        exact hquiet sup (List.mem_of_getElem? hi) (by rw [hlock])
      refine .inr ⟨t', p, command, stage, ?_, hlock⟩
      rw [State.setTask_other hne, ht']

theorem finish (h : Disciplined asked s) (hrequest : asked[t]? = some request)
    (hquiet : ∀ sup ∈ s.supervisors, sup.writeLock.owner ≠ some t) (r : Except Fault Answer) :
    Disciplined asked (s.finish t r) :=
  h.setTask hrequest (.finished r) nofun hquiet

/-- A request brings a task of its own. -/
theorem addTask (h : Disciplined asked s) (request : Request) (r : Except Fault Answer) :
    Disciplined (asked ++ [request]) { s with tasks := s.tasks ++ [.finished r] } := by
  refine ⟨by simp [h.asks], h.resident, h.sinks, h.owned, h.single, h.process, ?_, ?_, ?_⟩
  · intro t request' task hrequest htask
    rcases eq_or_of_getElem?_concat htask with htask | ⟨_, rfl⟩
    · have ht : t < asked.length := h.asks ▸ (List.getElem?_eq_some_iff.mp htask).1
      rw [List.getElem?_append_left ht] at hrequest
      exact (h.allowed hrequest htask).imp (fun _ ht => ht) (fun _ _ hp => hp) (fun _ hi => hi)
        (fun _ hi => hi) (fun _ _ _ hi => hi)
    · exact .finished r
  · intro t t' i stage stage' ht ht'
    rcases eq_or_of_getElem?_concat ht with ht | ⟨_, heq⟩
    · rcases eq_or_of_getElem?_concat ht' with ht' | ⟨_, heq⟩
      · exact h.launches ht ht'
      · cases heq
    · cases heq
  · intro i sup hi
    rcases h.writes hi with hfree | ⟨t, p, command, stage, ht, hlock⟩
    · exact .inl hfree
    · refine .inr ⟨t, p, command, stage, ?_, hlock⟩
      rw [List.getElem?_append_left (List.getElem?_eq_some_iff.mp ht).1, ht]

/-- The session may change, if it keeps its mode and those who have the lock keep it. -/
theorem modifySession (h : Disciplined asked s) {f : Session → Session}
    (hmode : ∀ q, (f q).settings.mode = q.settings.mode)
    (hturn : ∀ (t : TaskId) task, s.tasks[t]? = some task → (∀ r, task ≠ .finished r) →
      s.turn = some t → (s.modifySession f).turn = some t) :
    Disciplined asked (s.modifySession f) := by
  refine ⟨h.asks, ?_, h.sinks, h.owned, h.single, h.process, ?_, h.launches, h.writes⟩
  · obtain ⟨q, hs, hq⟩ := h.resident
    exact ⟨f q, by simp [State.modifySession, hs], (hmode q).trans hq⟩
  · intro t request task hrequest ht
    exact (h.allowed hrequest ht).imp (hturn t task ht) (fun _ _ hp => hp) (fun _ hi => hi)
      (fun _ hi => hi) (fun _ _ _ hi => hi)

theorem setHandle (h : Disciplined asked s) (compiler : Option SupervisorId) :
    Disciplined asked (s.modifySession fun q => { q with compiler }) := by
  refine h.modifySession (fun _ => rfl) fun t task _ _ hturn => ?_
  simpa [State.turn, State.modifySession, Option.bind_map, Function.comp_def] using hturn

/-- Whoever asks for the lock does not take it away from the task that has it. -/
theorem acquire (h : Disciplined asked s) (t : TaskId) :
    Disciplined asked (s.modifySession fun q => { q with lock := q.lock.acquire t }) := by
  refine h.modifySession (fun _ => rfl) fun t' task _ _ hturn => ?_
  obtain ⟨q, hs, hlock⟩ := Option.bind_eq_some_iff.mp hturn
  simp [State.turn, State.modifySession, hs, Lock.acquire, hlock]

/-- Only a task that has the lock gives it back, and then it has finished. -/
theorem release (h : Disciplined asked s) (hturn : s.turn = some t) {r : Except Fault Answer}
    (hfinished : s.tasks[t]? = some (.finished r)) :
    Disciplined asked (s.modifySession fun q => { q with lock := q.lock.release }) := by
  refine h.modifySession (fun _ => rfl) ?_
  intro t' task ht' hwaits hturn'
  rw [hturn, Option.some.injEq] at hturn'
  subst t'
  exact absurd (Option.some.inj (ht'.symm.trans hfinished)) (hwaits r)

theorem endPass (h : Disciplined asked s) (hrequest : asked[t]? = some request)
    (hquiet : ∀ sup ∈ s.supervisors, sup.writeLock.owner ≠ some t) (hturn : s.turn = some t)
    (ht : t < s.tasks.length) (r : Except Fault Answer) : Disciplined asked (s.endPass t r) :=
  (h.finish hrequest hquiet r).release (r := r) hturn (by simp [State.finish, State.setTask, ht])

theorem modifySupervisor (h : Disciplined asked s) (i : SupervisorId)
    {f : Supervisor → Supervisor} (hsink : ∀ q, (f q).sink = q.sink)
    (hstopping : ∀ q, q.stopping → (f q).stopping)
    (hprocess : ∀ q, (f q).process = none ∨ (f q).process = q.process)
    (hwrites : ∀ q, s.supervisors[i]? = some q → s.Writes i (f q).writeLock) :
    Disciplined asked (s.modifySupervisor i f) := by
  have hlength : (s.modifySupervisor i f).supervisors.length = s.supervisors.length := by
    simp [State.modifySupervisor]
  refine ⟨h.asks, h.resident, ?_, ?_, h.single, ?_, ?_, h.launches, ?_⟩
  · intro sup hsup
    obtain ⟨n, hn⟩ := List.getElem?_of_mem hsup
    simp only [State.modifySupervisor, List.getElem?_modify] at hn
    obtain ⟨q, hq, rfl⟩ := Option.map_eq_some_iff.mp hn
    have hq' := h.sinks q (List.mem_of_getElem? hq)
    split
    · rw [hsink]
      exact hq'
    · exact hq'
  · rw [hlength]
    exact h.owned
  · intro j p hp
    refine h.process (i := j) ?_
    simp only [State.processOf?, State.modifySupervisor, List.getElem?_modify,
      Option.bind_eq_some_iff] at hp ⊢
    obtain ⟨sup, hsup, hp⟩ := hp
    obtain ⟨q, hq, rfl⟩ := Option.map_eq_some_iff.mp hsup
    refine ⟨q, hq, ?_⟩
    split at hp
    · rcases hprocess q with hnone | hsame
      · simp [hnone] at hp
      · rwa [hsame] at hp
    · exact hp
  · intro t request task hrequest ht
    refine (h.allowed hrequest ht).imp (fun _ hturn => hturn) (fun _ _ hp => hp) ?_
      (fun _ hi => hi) ?_
    · intro j hj
      obtain ⟨q, hq, hstops⟩ := State.stopping_iff.mp hj
      refine State.stopping_iff.mpr ⟨if i = j then f q else q, ?_, ?_⟩
      · simp [State.modifySupervisor, List.getElem?_modify, hq]
      split
      · exact hstopping q hstops
      · exact hstops
    · intro j stage _ hj
      exact ⟨by rw [hlength]; exact hj.1, hj.2⟩
  · intro j sup hj
    simp only [State.modifySupervisor, List.getElem?_modify] at hj
    obtain ⟨q, hq, rfl⟩ := Option.map_eq_some_iff.mp hj
    split
    · next heq =>
        subst heq
        exact hwrites q hq
    · exact h.writes hq

theorem modifyProcess (h : Disciplined asked s) (p : ProcessId) {f : Process → Process}
    (howner : ∀ q, (f q).owner = q.owner) (hdies : ∀ q, (f q).isAlive → q.isAlive) :
    Disciplined asked (s.modifyProcess p f) := by
  have hlength : (s.modifyProcess p f).processes.length = s.processes.length := by
    simp [State.modifyProcess]
  have hsame := s.ownerOf?_modifyProcess p howner
  have hdead (p' : ProcessId) (hdead : s.isAlive p' = false) :
      (s.modifyProcess p f).isAlive p' = false := by
    rw [Bool.eq_false_iff] at hdead ⊢
    exact mt (s.isAlive_of_modifyProcess p hdies) hdead
  refine ⟨h.asks, h.resident, h.sinks, ?_, ?_, ?_, ?_, h.launches, h.writes⟩
  · simp only [hlength, hsame]
    exact h.owned
  · intro p' p'' i hp' hp''
    rw [hsame] at hp' hp''
    exact h.single hp' hp''
  · intro i p' hp'
    rw [hsame]
    exact h.process hp'
  · intro t request task hrequest ht
    refine (h.allowed hrequest ht).imp (fun _ hturn => hturn) ?_ (fun _ hi => hi) ?_ ?_
    · intro p' i hp'
      rw [hsame, hp']
    · rintro i ⟨p', hp', hdead'⟩
      exact ⟨p', by rw [hsame, hp'], hdead p' hdead'⟩
    · intro i stage _ hi
      refine ⟨hi.1, fun p' => ?_⟩
      rw [hsame]
      exact hi.2 p'

end Disciplined

/-! ### What tasks do -/

namespace State

def setHandle (s : State) (compiler : Option SupervisorId) : State :=
  s.modifySession fun q => { q with compiler }

/-- A supervisor that is told to stop. -/
def halt (s : State) (i : SupervisorId) : State :=
  s.modifySupervisor i fun q => { q with stopping := true }

/-- A supervisor that lets go of its process. -/
def detach (s : State) (i : SupervisorId) : State :=
  s.modifySupervisor i fun q => { q with process := none, tended := none }

/-- A task asks for a process, for a new supervisor. -/
def ask (s : State) (t : TaskId) (sup : Supervisor) (stage : LaunchStage) : State :=
  ({ s with supervisors := s.supervisors ++ [sup] }.emit
    (.launch ⟨sup.settings.residentCommand sup.root.toText, none, sup.limit⟩)).setTask t
      (.launching s.supervisors.length stage)

/-- A process that was created for a supervisor. -/
def adopt (s : State) (i : SupervisorId) (process : Process) : State :=
  { s with processes := s.processes ++ [process] }.modifySupervisor i fun q =>
    { q with process := some s.processes.length, tended := some s.processes.length }

/-- A command that is written at once. -/
def send (s : State) (t : TaskId) (i : SupervisorId) (p : ProcessId) (command : String)
    (stage : SendStage) : State :=
  (((s.modifySupervisor i fun q => { q with writeLock := q.writeLock.acquire t }).emit
    (.debug ("compiler <- " ++ command))).emit (.write p (command ++ commandEnd))).setTask t
      (.flushing i p command stage)

end State

namespace State

variable (s : State)

@[simp] theorem handle_setHandle {s : State} (hs : s.session.isSome)
    (compiler : Option SupervisorId) : (s.setHandle compiler).handle = compiler := by
  obtain ⟨q, hq⟩ := Option.isSome_iff_exists.mp hs
  simp [handle, setHandle, modifySession, hq]

@[simp] theorem handle_setHandle_none : (s.setHandle none).handle = none := by
  simp [handle, setHandle, modifySession]

theorem turn_setHandle (compiler : Option SupervisorId) :
    (s.setHandle compiler).turn = s.turn :=
  s.bind_modifySession fun _ => rfl

theorem processOf?_modifySupervisor (i : SupervisorId) {f : Supervisor → Supervisor}
    (hf : ∀ q, (f q).process = q.process) (j : SupervisorId) :
    (s.modifySupervisor i f).processOf? j = s.processOf? j := by
  simp only [processOf?, modifySupervisor, List.getElem?_modify]
  split <;> cases s.supervisors[j]? <;> simp [hf]

theorem stopping_modifySupervisor (i : SupervisorId) {f : Supervisor → Supervisor}
    (hf : ∀ q, (f q).stopping = q.stopping) (j : SupervisorId) :
    (s.modifySupervisor i f).stopping j = s.stopping j := by
  simp only [stopping, modifySupervisor, List.getElem?_modify]
  split <;> cases s.supervisors[j]? <;> simp [hf]

theorem aliveProcess?_modifySupervisor (i : SupervisorId) {f : Supervisor → Supervisor}
    (hf : ∀ q, (f q).process = q.process) (j : SupervisorId) :
    (s.modifySupervisor i f).aliveProcess? j = s.aliveProcess? j := by
  apply Option.ext
  intro p
  rw [aliveProcess?_eq_some_iff, aliveProcess?_eq_some_iff, processOf?_modifySupervisor s i hf]
  rfl

theorem stopping_halt {s : State} {i : SupervisorId} (hi : i < s.supervisors.length)
    (j : SupervisorId) : (s.halt i).stopping j = (decide (j = i) || s.stopping j) := by
  simp only [stopping, halt, modifySupervisor, List.getElem?_modify]
  by_cases hj : i = j
  · subst hj
    simp [List.getElem?_eq_getElem hi]
  · have hj' : ¬j = i := fun heq => hj heq.symm
    simp [hj, hj']

theorem processOf?_detach (i j : SupervisorId) :
    (s.detach i).processOf? j = if j = i then none else s.processOf? j := by
  simp only [processOf?, detach, modifySupervisor, List.getElem?_modify]
  by_cases hj : i = j
  · subst hj
    cases s.supervisors[i]? <;> simp
  · have hj' : ¬j = i := fun heq => hj heq.symm
    simp [hj, hj']

theorem stopping_detach (i j : SupervisorId) : (s.detach i).stopping j = s.stopping j := by
  rw [detach, stopping_modifySupervisor]
  exact fun _ => rfl

theorem processOf?_addSupervisor {sup : Supervisor} (hsup : sup.process = none)
    (j : SupervisorId) :
    { s with supervisors := s.supervisors ++ [sup] }.processOf? j = s.processOf? j := by
  simp only [processOf?, List.getElem?_append]
  split
  · rfl
  · next hge =>
      rw [List.getElem?_eq_none (Nat.le_of_not_lt hge)]
      cases hj : [sup][j - s.supervisors.length]? with
      | none => rfl
      | some sup' =>
          have hsup' : sup' = sup := List.mem_singleton.mp (List.mem_of_getElem? hj)
          simp [hsup', hsup]

theorem stopping_addSupervisor (sup : Supervisor) {j : SupervisorId} (hj : s.stopping j) :
    { s with supervisors := s.supervisors ++ [sup] }.stopping j := by
  obtain ⟨q, hq, hstops⟩ := stopping_iff.mp hj
  refine stopping_iff.mpr ⟨q, ?_, hstops⟩
  exact (List.getElem?_append_left (List.getElem?_eq_some_iff.mp hq).1).trans hq

theorem ownerOf?_adopt (i : SupervisorId) (process : Process) (p : ProcessId) :
    (s.adopt i process).ownerOf? p =
      if p = s.processes.length then process.owner else s.ownerOf? p := by
  simp only [ownerOf?, adopt, modifySupervisor, List.getElem?_append]
  grind

theorem isAlive_adopt (i : SupervisorId) (process : Process) (p : ProcessId) :
    (s.adopt i process).isAlive p =
      if p = s.processes.length then process.isAlive else s.isAlive p := by
  simp only [isAlive, adopt, modifySupervisor, List.getElem?_append]
  grind

theorem watched_adopt (i : SupervisorId) (process : Process) (p : ProcessId) :
    (s.adopt i process).watched p =
      if p = s.processes.length then process.watched else s.watched p := by
  simp only [watched, adopt, modifySupervisor, List.getElem?_append]
  grind

theorem processOf?_adopt {s : State} {i : SupervisorId} (hi : i < s.supervisors.length)
    (process : Process) (j : SupervisorId) :
    (s.adopt i process).processOf? j =
      if j = i then some s.processes.length else s.processOf? j := by
  simp only [processOf?, adopt, modifySupervisor, List.getElem?_modify]
  by_cases hj : i = j
  · subst hj
    simp [List.getElem?_eq_getElem hi]
  · have hj' : ¬j = i := fun heq => hj heq.symm
    simp [hj, hj']

theorem stopping_adopt (i : SupervisorId) (process : Process) (j : SupervisorId) :
    (s.adopt i process).stopping j = s.stopping j := by
  rw [adopt, stopping_modifySupervisor]
  · rfl
  · exact fun _ => rfl

end State

/-- The supervisor whose launch or stop a task waits for. -/
def Task.supervisor? : Task → Option SupervisorId
  | launching i _ | exiting i _ _ _ | reaping i _ _ => some i
  | _ => none

def Task.isFlushing : Task → Bool
  | flushing _ _ _ _ => true
  | _ => false

/-- Compilers are launched and stopped by starts, closes, and restarts that have their turn. -/
theorem Disciplined.attendant {asked : List Request} {s : State} {t : TaskId} {task : Task}
    (h : Disciplined asked s) (htask : s.tasks[t]? = some task) {i : SupervisorId}
    (hi : task.supervisor? = some i) :
    ∃ request, asked[t]? = some request ∧
      ((∃ root, request = .start (some root)) ∨ request = .close ∨
        request = .restart ∧ s.turn = some t) := by
  obtain ⟨request, hrequest, hallowed⟩ := h.request_of_task htask
  refine ⟨request, hrequest, ?_⟩
  have hstops {stage : StopStage} (hstops : Stops s t request stage) :
      request = .close ∨ request = .restart ∧ s.turn = some t := by
    cases hstops with
    | close => exact .inl rfl
    | restart hturn => exact .inr ⟨rfl, hturn⟩
  cases hallowed with
  | launching hlaunches _ =>
      cases hlaunches with
      | start root => exact .inl ⟨root, rfl⟩
      | restart hturn => exact .inr (.inr ⟨rfl, hturn⟩)
  | exiting h _ _ => exact .inr (hstops h)
  | reaping h _ _ => exact .inr (hstops h)
  | _ => cases hi

/-- What the task of a request does on its way from where it stood to where it comes to rest. A job
publishes nothing on its way. -/
inductive Moves (t : TaskId) (request : Request) (task : Task) (s : State) : State → Prop where
  | tell {s' : State} (tells : Tells s s') (tasks : s'.tasks = s.tasks)
      (kept : request.job? = none ∨ s'.store? = s.store?) : Moves t request task s s'
  | root (root : Option Path) (starts : request = .start root) :
      Moves t request task s (s.modifySession fun q => { q with root })
  | record (outputPath : Option String) (unasked : request.job? = none) :
      Moves t request task s (s.modifySession fun q => { q with outputPath })
  | signal (p : ProcessId) (signal : Signal) : Moves t request task s (s.emit (.signal p signal))
  | acquire : Moves t request task s (s.modifySession fun q => { q with lock := q.lock.acquire t })
  | unwatch (p : ProcessId) : Moves t request task s (s.cancelReaders p)
  | halt {i : SupervisorId} (handle : s.handle = some i) : Moves t request task s (s.halt i)
  | detach {i : SupervisorId} (stopping : s.stopping i) (dead : s.Dead i) :
      Moves t request task s (s.detach i)
  | drop {i : SupervisorId} (free : s.processOf? i = none)
      (mine : s.handle = some i ∨ task.supervisor? = some i) :
      Moves t request task s (s.setHandle none)

/-- How the task of a request comes to rest after an event, from where it stood. -/
inductive Rests (e : Event) (t : TaskId) (request : Request) (task : Task) (s : State) :
    State → Prop where
  | wait {job : Job} (quiet : task.isFlushing = false) (asks : request.job? = some job) :
      Rests e t request task s (s.setTask t (.compileTurn job))
  | finish (quiet : task.isFlushing = false) (r : Except Fault Answer) :
      Rests e t request task s (s.finish t r)
  | endPass (quiet : task.isFlushing = false) (turn : s.turn = some t) (r : Except Fault Answer) :
      Rests e t request task s (s.endPass t r)
  | kill (quiet : task.isFlushing = false) (kills : request = .kill) (r : Except Fault Answer) :
      Rests e t request task s (s.killSession.finish t r)
  | ask {sup : Supervisor} {stage : LaunchStage} (quiet : task.isFlushing = false)
      (launches : Launches s t request stage) (rooted : s.root.isSome)
      (sink : sup.sink = .session s.generation)
      (unused : sup.process = none ∧ sup.writeLock = {})
      (vacant : request = .restart → s.handle = none) :
      Rests e t request task s (s.ask t sup stage)
  | adopt {i : SupervisorId} {stage : LaunchStage} {process : Process}
      (launching : task = .launching i stage) (launches : Launches s t request stage)
      (owner : process.owner = some i) (alive : process.isAlive) :
      Rests e t request task s
        (((s.adopt i process).setHandle (some i)).closeLaunch t stage (.ok (.flag true)))
  | stop {i : SupervisorId} {task' : Task} (quiet : task.isFlushing = false)
      (mine : s.handle = some i ∨ task.supervisor? = some i) (stops : task'.supervisor? = some i)
      (allowed : Allowed s t request task') (waits : ∀ i stage, task' ≠ .launching i stage) :
      Rests e t request task s (s.setTask t task')
  | opens {s' : State} {i : SupervisorId} {p : ProcessId} {stage : SendStage}
      (quiet : task.isFlushing = false) (turn : s.turn = some t)
      (opened : s.openPass request.cleared = (s', .ok ())) (alive : s.aliveProcess? i = some p)
      (sends : Sends request stage State.errorsCommand) :
      Rests e t request task s (s'.send t i p State.errorsCommand stage)
  | refused {s' : State} {fault : Fault} (quiet : task.isFlushing = false) (turn : s.turn = some t)
      (refused : s.openPass request.cleared = (s', .error fault)) (r : Except Fault Answer) :
      Rests e t request task s (s'.endPass t r)
  | compiles {i : SupervisorId} {p : ProcessId} {command path : String} {stage stage' : SendStage}
      (flushing : task = .flushing i p command stage) (alive : s.aliveProcess? i = some p)
      (turn : s.turn = some t) (sends : Sends request stage' (State.compileCommand path))
      (recorded : stage = .saveErrors ∧ s.outputPath = some path ∧ path ≠ "" ∨
        stage = .compileErrors path) :
      Rests e t request task s
        ((s.releaseWrite i).send t i p (State.compileCommand path) stage')
  | reloads {i : SupervisorId} {p : ProcessId} {command : String}
      (flushing : task = .flushing i p command .saveOutput) (turn : s.turn = some t)
      (done : e = .flushed t .done) (r : Except Fault Answer) :
      Rests e t request task s (((s.releaseWrite i).emit (.notify .reloadServer)).endPass t r)
  | flushed {i : SupervisorId} {p : ProcessId} {command : String} {stage : SendStage}
      (flushing : task = .flushing i p command stage) (turn : s.turn = some t)
      (silent : stage = .saveOutput → e ≠ .flushed t .done) (r : Except Fault Answer) :
      Rests e t request task s ((s.releaseWrite i).endPass t r)

/-- After an event, the task of a request goes from where it stood to where it comes to rest. -/
inductive Goes (e : Event) (t : TaskId) (request : Request) (task : Task) :
    State → State → Prop where
  | move {s s₁ s' : State} (moves : Moves t request task s s₁)
      (goes : Goes e t request task s₁ s') : Goes e t request task s s'
  | rest {s s' : State} (rests : Rests e t request task s s') : Goes e t request task s s'

/-- On its way a task stands where it stood. -/
theorem Moves.tasks_eq {t : TaskId} {request : Request} {task : Task} {s s' : State}
    (h : Moves t request task s s') : s'.tasks = s.tasks := by
  cases h with
  | tell _ htasks _ => exact htasks
  | _ => rfl

namespace Disciplined

variable {asked : List Request} {s s' : State} {t : TaskId} {request : Request} {task : Task}

theorem moves (h : Disciplined asked s) (hmoves : Moves t request task s s') :
    Disciplined asked s' := by
  have hkept {f : Session → Session} (hmode : ∀ q, (f q).settings.mode = q.settings.mode)
      (hlock : ∀ q, (f q).lock = q.lock) : Disciplined asked (s.modifySession f) := by
    refine h.modifySession hmode fun t task _ _ hturn => ?_
    simpa [State.turn, State.modifySession, Option.bind_map, Function.comp_def, hlock] using hturn
  cases hmoves with
  | tell htells htasks _ => exact h.tells htells htasks
  | root root => exact hkept (fun _ => rfl) (fun _ => rfl)
  | record path => exact hkept (fun _ => rfl) (fun _ => rfl)
  | signal p signal => exact h.emit _
  | acquire => exact h.acquire t
  | unwatch p => exact h.modifyProcess p (fun _ => rfl) (fun _ ha => ha)
  | halt _ =>
      exact h.modifySupervisor _ (fun _ => rfl) (fun _ _ => rfl) (fun _ => .inr rfl)
        (fun _ hi => (h.writes hi :))
  | detach _ _ =>
      exact h.modifySupervisor _ (fun _ => rfl) (fun _ hi => hi) (fun _ => .inl rfl)
        (fun _ hi => (h.writes hi :))
  | drop _ _ => exact h.setHandle none

theorem addSupervisor (h : Disciplined asked s) {sup : Supervisor}
    (hsink : sup.sink = .session s.generation) (hprocess : sup.process = none)
    (hwrite : sup.writeLock = {}) :
    Disciplined asked { s with supervisors := s.supervisors ++ [sup] } := by
  have hlength : s.supervisors.length < (s.supervisors ++ [sup]).length := by simp
  refine ⟨h.asks, h.resident, ?_, ?_, h.single, ?_, ?_, h.launches, ?_⟩
  · intro sup' hsup'
    rcases List.mem_append.mp hsup' with hsup' | hsup'
    · exact h.sinks sup' hsup'
    · rw [List.mem_singleton.mp hsup', hsink]
      rfl
  · intro p hp
    obtain ⟨i, hi, howner⟩ := h.owned p hp
    exact ⟨i, Nat.lt_trans hi hlength, howner⟩
  · intro i p hp
    exact h.process ((s.processOf?_addSupervisor hprocess i).symm.trans hp)
  · intro t request task hrequest ht
    refine (h.allowed hrequest ht).imp (fun _ ht => ht) (fun _ _ hp => hp)
      (fun _ => s.stopping_addSupervisor sup) (fun _ hi => hi) ?_
    intro i stage _ hi
    exact ⟨Nat.lt_trans hi.1 hlength, hi.2⟩
  · intro i sup' hi
    rw [List.getElem?_append] at hi
    split at hi
    · exact h.writes hi
    · exact .inl (by rw [List.mem_singleton.mp (List.mem_of_getElem? hi), hwrite])

/-- A process is created for a supervisor that no task launches any more. -/
theorem adopt (h : Disciplined asked s) {i : SupervisorId} (hi : s.Unlaunched i)
    (hlaunched : ∀ (t : TaskId) stage, s.tasks[t]? ≠ some (.launching i stage))
    {process : Process} (howner : process.owner = some i) :
    Disciplined asked (s.adopt i process) := by
  have hlength : (s.adopt i process).supervisors.length = s.supervisors.length := by
    simp [State.adopt, State.modifySupervisor]
  have hnew (p : ProcessId) (hp : p = s.processes.length) : s.ownerOf? p = none := by
    simp [State.ownerOf?, hp]
  have hkept (p : ProcessId) (j : SupervisorId) (hp : s.ownerOf? p = some j) :
      (s.adopt i process).ownerOf? p = some j := by
    rw [State.ownerOf?_adopt, if_neg fun heq => by simp [hnew p heq] at hp, hp]
  have hfrom {p : ProcessId} {j : SupervisorId} (hp : (s.adopt i process).ownerOf? p = some j) :
      p = s.processes.length ∧ j = i ∨ s.ownerOf? p = some j := by
    rw [State.ownerOf?_adopt, howner] at hp
    split at hp
    · next heq => exact .inl ⟨heq, (Option.some.inj hp).symm⟩
    · exact .inr hp
  refine ⟨h.asks, h.resident, ?_, ?_, ?_, ?_, ?_, h.launches, ?_⟩
  · intro sup hsup
    obtain ⟨n, hn⟩ := List.getElem?_of_mem hsup
    simp only [State.adopt, State.modifySupervisor, List.getElem?_modify] at hn
    obtain ⟨q, hq, rfl⟩ := Option.map_eq_some_iff.mp hn
    have hq' := h.sinks q (List.mem_of_getElem? hq)
    split <;> exact hq'
  · intro p hp
    rw [hlength]
    have hp' : p < s.processes.length + 1 := by
      simpa [State.adopt, State.modifySupervisor] using hp
    rcases Nat.lt_succ_iff_lt_or_eq.mp hp' with hp' | heq
    · obtain ⟨j, hj, hown⟩ := h.owned p hp'
      exact ⟨j, hj, hkept p j hown⟩
    · exact ⟨i, hi.1, by rw [State.ownerOf?_adopt, if_pos heq, howner]⟩
  · intro p p' j hp hp'
    rcases hfrom hp with ⟨rfl, rfl⟩ | hp <;> rcases hfrom hp' with ⟨rfl, heq⟩ | hp'
    · rfl
    · exact absurd hp' (hi.2 p')
    · exact absurd (heq ▸ hp) (hi.2 p)
    · exact h.single hp hp'
  · intro j p hp
    rw [State.processOf?_adopt hi.1] at hp
    split at hp
    · next heq =>
        rw [State.ownerOf?_adopt, if_pos (Option.some.inj hp).symm, howner, heq]
    · exact hkept p j (h.process hp)
  · intro t request task hrequest ht
    refine (h.allowed hrequest ht).imp (fun _ ht => ht) hkept ?_ ?_ ?_
    · intro j hj
      rwa [State.stopping_adopt]
    · rintro j ⟨p, hp, hdead⟩
      refine ⟨p, hkept p j hp, ?_⟩
      rw [State.isAlive_adopt, if_neg fun heq => by simp [hnew p heq] at hp, hdead]
    · rintro j stage rfl hj
      refine ⟨by rw [hlength]; exact hj.1, fun p hp => ?_⟩
      rcases hfrom hp with ⟨_, rfl⟩ | hp
      · exact hlaunched t stage ht
      · exact hj.2 p hp
  · intro j sup hj
    simp only [State.adopt, State.modifySupervisor, List.getElem?_modify] at hj
    obtain ⟨q, hq, rfl⟩ := Option.map_eq_some_iff.mp hj
    have hq' := h.writes hq
    split <;> exact hq'

/-- A task that has its turn and no write lock writes a command. -/
theorem send (h : Disciplined asked s) (hrequest : asked[t]? = some request)
    (hquiet : ∀ sup ∈ s.supervisors, sup.writeLock.owner ≠ some t) {i : SupervisorId}
    (hfree : ∀ sup, s.supervisors[i]? = some sup → sup.writeLock = {}) {p : ProcessId}
    {command : String} {stage : SendStage} (hsends : Sends request stage command)
    (hturn : s.turn = some t) (howner : s.ownerOf? p = some i) (ht : t < s.tasks.length) :
    Disciplined asked (s.send t i p command stage) := by
  have hset := h.setTask hrequest (.flushing hsends hturn howner) nofun hquiet
  have hlocked : Disciplined asked ((s.setTask t (.flushing i p command stage)).modifySupervisor i
      fun q => { q with writeLock := q.writeLock.acquire t }) := by
    refine hset.modifySupervisor i (fun _ => rfl) (fun _ hi => hi) (fun _ => .inr rfl) ?_
    intro sup hsup
    refine .inr ⟨t, p, command, stage, ?_, ?_⟩
    · simp [State.setTask, ht]
    · simp [hfree sup hsup, Lock.acquire]
  exact (hlocked.emit (.debug ("compiler <- " ++ command))).emit (.write p (command ++ State.commandEnd))

theorem releaseWrite (h : Disciplined asked s) (i : SupervisorId) :
    Disciplined asked (s.releaseWrite i) := by
  refine h.modifySupervisor i (fun _ => rfl) (fun _ hi => hi) (fun _ => .inr rfl) ?_
  intro sup hsup
  refine .inl ?_
  rcases h.writes hsup with hfree | ⟨t, p, command, stage, _, hlock⟩
  · simp [hfree, Lock.release]
  · simp [hlock, Lock.release]

theorem releaseWrite_free (h : Disciplined asked s) {i : SupervisorId} {sup : Supervisor}
    (hi : (s.releaseWrite i).supervisors[i]? = some sup) : sup.writeLock = {} := by
  simp only [State.releaseWrite, State.modifySupervisor, List.getElem?_modify_eq] at hi
  obtain ⟨q, hq, rfl⟩ := Option.map_eq_some_iff.mp hi
  rcases h.writes hq with hfree | ⟨_, _, _, _, _, hlock⟩
  · simp [hfree, Lock.release]
  · simp [hlock, Lock.release]

/-- A task whose command was flushed gives back the only write lock that it has. -/
theorem not_writing_releaseWrite (h : Disciplined asked s) {i : SupervisorId} {p : ProcessId}
    {command : String} {stage : SendStage}
    (htask : s.tasks[t]? = some (.flushing i p command stage)) :
    ∀ sup ∈ (s.releaseWrite i).supervisors, sup.writeLock.owner ≠ some t := by
  intro sup hsup howner
  obtain ⟨j, hj⟩ := List.getElem?_of_mem hsup
  rcases (h.releaseWrite i).writes hj with hfree | ⟨t', p', command', stage', ht', hlock⟩
  · simp [hfree] at howner
  · rw [hlock, Option.some.injEq] at howner
    subst t'
    cases htask.symm.trans ht'
    simp [h.releaseWrite_free hj] at hlock

theorem killSession (h : Disciplined asked s) : Disciplined asked s.killSession := by
  unfold State.killSession
  cases s.session.bind (·.compiler) with
  | none => exact h.tells (.clearStream _) rfl
  | some i =>
      refine Disciplined.tells (Disciplined.setHandle ?_ none) (.clearStream _) rfl
      unfold State.killSupervised
      split
      · exact h
      · refine Disciplined.emit ?_ _
        exact h.modifySupervisor _ (fun _ => rfl) (fun _ _ => rfl) (fun _ => .inr rfl)
          (fun _ hi => (h.writes hi :))

theorem ask (h : Disciplined asked s) (hrequest : asked[t]? = some request)
    (hquiet : ∀ sup ∈ s.supervisors, sup.writeLock.owner ≠ some t) {sup : Supervisor}
    {stage : LaunchStage} (hlaunches : Launches s t request stage)
    (hsink : sup.sink = .session s.generation) (hprocess : sup.process = none)
    (hwrite : sup.writeLock = {}) : Disciplined asked (s.ask t sup stage) := by
  refine ((h.addSupervisor hsink hprocess hwrite).emit _).setTask hrequest (.launching ?_ ?_) ?_ ?_
  · exact hlaunches.imp id
  · refine ⟨by simp [State.emit], fun p hp => ?_⟩
    obtain ⟨process, hprocess, _⟩ := Option.bind_eq_some_iff.mp hp
    obtain ⟨i, hi, howner⟩ := h.owned p (List.getElem?_eq_some_iff.mp hprocess).1
    exact absurd (Option.some.inj (hp.symm.trans howner)) (Nat.ne_of_gt hi)
  · rintro i stage' ⟨⟩ t' stage'' ht'
    obtain ⟨_, _, hallowed⟩ := h.request_of_task ht'
    cases hallowed with
    | launching _ hi => exact absurd hi.1 (Nat.lt_irrefl _)
  · intro sup' hsup'
    rcases List.mem_append.mp hsup' with hsup' | hsup'
    · exact hquiet sup' hsup'
    · rw [List.mem_singleton.mp hsup', hwrite]
      simp

/-- The session takes the compiler that a task has launched for it. -/
theorem closeAdopt (h : Disciplined asked s) (hrequest : asked[t]? = some request)
    {i : SupervisorId} {stage : LaunchStage} (htask : s.tasks[t]? = some (.launching i stage))
    {process : Process} (howner : process.owner = some i) (r : Except Fault Answer) :
    Disciplined asked (((s.adopt i process).setHandle (some i)).closeLaunch t stage r) := by
  have ht : t < s.tasks.length := (List.getElem?_eq_some_iff.mp htask).1
  have hquiet := h.not_writing htask nofun
  have hfinished (r : Except Fault Answer) : (s.finish t r).tasks[t]? = some (.finished r) := by
    simp [State.finish, State.setTask, ht]
  have hallowed := h.allowed hrequest htask
  have hadopted (r : Except Fault Answer) :
      Disciplined asked (((s.finish t r).adopt i process).setHandle (some i)) := by
    refine Disciplined.setHandle ((h.finish hrequest hquiet r).adopt (h.unlaunched htask) ?_ howner) _
    intro t' stage' ht'
    by_cases heq : t' = t
    · rw [heq, hfinished] at ht'
      cases ht'
    · rw [State.finish_other heq] at ht'
      exact heq (h.launches ht' htask)
  cases hallowed with
  | launching hlaunches _ =>
      cases hlaunches with
      | start root => cases r <;> exact hadopted _
      | restart hturn =>
          refine (hadopted r).release (t := t) ?_ (hfinished r)
          rw [← hturn]
          exact State.turn_setHandle _ _

theorem rests {e : Event} (h : Disciplined asked s) (hrequest : asked[t]? = some request)
    (htask : s.tasks[t]? = some task) (hrests : Rests e t request task s s') :
    Disciplined asked s' := by
  have ht : t < s.tasks.length := (List.getElem?_eq_some_iff.mp htask).1
  have hquiet {s₁ : State} (h₁ : Disciplined asked s₁) (htasks : s₁.tasks = s.tasks)
      (hquiet : task.isFlushing = false) :
      ∀ sup ∈ s₁.supervisors, sup.writeLock.owner ≠ some t := by
    refine h₁.not_writing (htasks ▸ htask) ?_
    rintro i p command stage rfl
    cases hquiet
  cases hrests with
  | wait hq hjob => exact h.setTask hrequest (.waiting hjob) nofun (hquiet h rfl hq)
  | finish hq r => exact h.finish hrequest (hquiet h rfl hq) r
  | endPass hq hturn r => exact h.endPass hrequest (hquiet h rfl hq) hturn ht r
  | kill hq _ r => exact h.killSession.finish hrequest (hquiet h.killSession (by simp) hq) r
  | ask hq hlaunches _ hsink hunused _ =>
      exact h.ask hrequest (hquiet h rfl hq) hlaunches hsink hunused.1 hunused.2
  | adopt hlaunching hlaunches howner _ =>
      subst hlaunching
      exact h.closeAdopt hrequest htask howner _
  | stop hq _ _ hallowed hwaits =>
      exact h.setTask hrequest hallowed (fun i stage heq => absurd heq (hwaits i stage))
        (hquiet h rfl hq)
  | opens hq hturn hopened halive hsends =>
      obtain ⟨htells, htasks⟩ := Tells.of_openPass hopened
      have h₁ := h.tells htells htasks
      have hturn₁ := htells.turn_eq.trans hturn
      rw [← htells.aliveProcess?_eq, State.aliveProcess?_eq_some_iff] at halive
      refine h₁.send hrequest (hquiet h₁ htasks hq) ?_ hsends hturn₁ (h₁.process halive.1)
        (htasks ▸ ht)
      intro sup hsup
      refine h₁.write_free hturn₁ (htasks ▸ htask) ?_ hsup
      rintro i p command stage rfl
      cases hq
  | refused hq hturn hrefused r =>
      obtain ⟨htells, htasks⟩ := Tells.of_openPass hrefused
      have h₁ := h.tells htells htasks
      exact h₁.endPass hrequest (hquiet h₁ htasks hq) (htells.turn_eq.trans hturn) (htasks ▸ ht) r
  | compiles hflush halive hturn hsends _ =>
      subst hflush
      rw [State.aliveProcess?_eq_some_iff] at halive
      exact (h.releaseWrite _).send hrequest (h.not_writing_releaseWrite htask)
        (fun _ => h.releaseWrite_free) hsends hturn (h.process halive.1) ht
  | reloads hflush hturn _ r =>
      subst hflush
      exact ((h.releaseWrite _).emit _).endPass hrequest (h.not_writing_releaseWrite htask) hturn
        ht r
  | flushed hflush hturn _ r =>
      subst hflush
      exact (h.releaseWrite _).endPass hrequest (h.not_writing_releaseWrite htask) hturn ht r

end Disciplined

end Datapack.Machine
