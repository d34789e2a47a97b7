import Datapack.Proofs.Machine.LateLines
import Datapack.Proofs.Machine.ResidentSteps

/-! How many compilers a session has at a time. The session takes a compiler only after its process
was created, and a start and a close do not wait for the compile lock. So there is one compiler as
long as a start meets no other start, no restart and no close, and a restart meets no close; else
two of them may run, or one that the session has lost sight of. -/

namespace Datapack.Machine

open Diagnostic Text

/-! ### Requests that get in each other's way -/

/-- Whether two requests get in each other's way while both are under way. -/
def Request.clashes : Request → Request → Bool
  | start (some _), start (some _) | start (some _), restart | start (some _), close => true
  | restart, start (some _) | close, start (some _) => true
  | restart, close | close, restart => true
  | _, _ => false

theorem Request.clashes_comm (request other : Request) :
    request.clashes other = other.clashes request := by
  unfold clashes
  grind

theorem Request.clashes_cases {request other : Request} (h : request.clashes other) :
    request = .restart ∧ other = .close ∨ request = .close ∧ other = .restart ∨
      (∃ root, request = .start (some root)) ∨ ∃ root, other = .start (some root) := by
  unfold clashes at h
  grind

namespace State

/-- A request whose task has not finished. -/
def UnderWay (s : State) (asked : List Request) (request : Request) : Prop :=
  ∃ (t : TaskId) (task : Task), asked[t]? = some request ∧ s.tasks[t]? = some task ∧
    task.isFinished = false

/-- A request that gets in the way of none that is under way. A compiler is started only if there is
none; a close without a compiler ends at once. -/
def Admits (s : State) (asked : List Request) (request : Request) : Prop :=
  request = .close ∧ s.handle = none ∨
    (∀ other, s.UnderWay asked other → request.clashes other = false) ∧
      ∀ root, request = .start (some root) → s.handle = none

end State

/-- Events whose requests never get in each other's way, after those that were made before. Nothing
is killed. -/
def Orderly (asked : List Request) (s : State) : List Event → Prop
  | [] => True
  | e :: events =>
    (∀ request, e.request? = some request → request ≠ .kill ∧ s.Admits asked request) ∧
      Orderly (asked ++ e.request?.toList) (s.step e) events

/-! ### What keeps a session to one compiler -/

/-- A process that is alive is the one of the session's compiler; a compiler is launched or stopped
only for the session; and an exit that is still to be reported is that of the session's compiler,
or of one that was told to stop. -/
structure Single (asked : List Request) (s : State) : Prop where
  alive : ∀ {p}, s.isAlive p → ∃ i, s.handle = some i ∧ s.processOf? i = some p
  launching : ∀ {t : TaskId} {i stage}, s.tasks[t]? = some (.launching i stage) → s.handle = none
  attends : ∀ {t : TaskId} {task i}, s.tasks[t]? = some task → task.supervisor? = some i →
    s.handle = some i ∨ s.handle = none
  watched : ∀ {p i}, s.watched p → s.ownerOf? p = some i →
    s.stopping i ∨ s.handle = some i ∧ s.processOf? i = some p
  apart : ∀ {t t' : TaskId} {request request' task task'}, t ≠ t' → asked[t]? = some request →
    asked[t']? = some request' → s.tasks[t]? = some task → s.tasks[t']? = some task' →
    task.isFinished = false → task'.isFinished = false → request.clashes request' = false

namespace Single

variable {asked : List Request} {s s' : State} {t : TaskId} {request : Request} {task : Task}

theorem not_alive (h : Single asked s) (hhandle : s.handle = none) (p : ProcessId) :
    s.isAlive p = false := by
  rw [Bool.eq_false_iff]
  intro halive
  obtain ⟨i, hi, _⟩ := h.alive halive
  simp [hhandle] at hi

/-- Changes that leave the session's compiler alone. -/
theorem keep (h : Single asked s) (hhandle : s'.handle = s.handle)
    (halive : ∀ p, s'.isAlive p → s.isAlive p) (hprocess : ∀ i, s'.processOf? i = s.processOf? i)
    (howner : ∀ p, s'.ownerOf? p = s.ownerOf? p) (hwatched : ∀ p, s'.watched p → s.watched p)
    (hstopping : ∀ i, s.stopping i → s'.stopping i) (htasks : s'.tasks = s.tasks) :
    Single asked s' := by
  refine ⟨?_, ?_, ?_, ?_, ?_⟩
  · intro p hp
    simpa only [hhandle, hprocess] using h.alive (halive p hp)
  · rw [htasks, hhandle]
    exact h.launching
  · rw [htasks, hhandle]
    exact h.attends
  · intro p i hp hi
    rw [howner] at hi
    rw [hhandle, hprocess]
    exact (h.watched (hwatched p hp) hi).imp_left (hstopping i)
  · rw [htasks]
    exact h.apart

theorem tells (h : Single asked s) (htells : Tells s s') (htasks : s'.tasks = s.tasks) :
    Single asked s' :=
  h.keep htells.handle_eq (fun p hp => htells.isAlive_eq p ▸ hp) htells.processOf?_eq
    htells.ownerOf?_eq (fun p hp => htells.watched_eq p ▸ hp)
    (fun i hi => (htells.stopping_eq i).symm ▸ hi) htasks

theorem emit (h : Single asked s) (e : Effect) : Single asked (s.emit e) :=
  h.keep rfl (fun _ hp => hp) (fun _ => rfl) (fun _ => rfl) (fun _ hp => hp) (fun _ hi => hi) rfl

/-- The session may change, if it keeps its compiler. -/
theorem modifySession (h : Single asked s) {f : Session → Session}
    (hf : ∀ q, (f q).compiler = q.compiler) : Single asked (s.modifySession f) := by
  refine h.keep ?_ (fun _ hp => hp) (fun _ => rfl) (fun _ => rfl) (fun _ hp => hp) (fun _ hi => hi)
    rfl
  exact s.bind_modifySession hf

/-- A supervisor may change, if it keeps its process. -/
theorem modifySupervisor (h : Single asked s) (i : SupervisorId) {f : Supervisor → Supervisor}
    (hprocess : ∀ q, (f q).process = q.process) (hstopping : ∀ q, q.stopping → (f q).stopping) :
    Single asked (s.modifySupervisor i f) := by
  refine h.keep rfl (fun _ hp => hp) (s.processOf?_modifySupervisor i hprocess) (fun _ => rfl)
    (fun _ hp => hp) ?_ rfl
  intro j hj
  obtain ⟨q, hq, hstops⟩ := State.stopping_iff.mp hj
  refine State.stopping_iff.mpr ⟨if i = j then f q else q, ?_, ?_⟩
  · simp [State.modifySupervisor, List.getElem?_modify, hq]
  · split
    · exact hstopping q hstops
    · exact hstops

theorem addSupervisor (h : Single asked s) {sup : Supervisor} (hsup : sup.process = none) :
    Single asked { s with supervisors := s.supervisors ++ [sup] } := by
  refine h.keep rfl ?_ (s.processOf?_addSupervisor hsup) ?_ ?_ (fun _ => s.stopping_addSupervisor sup)
    rfl
  · exact fun _ hp => hp
  · exact fun _ => rfl
  · exact fun _ hp => hp

theorem modifyProcess (h : Single asked s) (p : ProcessId) {f : Process → Process}
    (howner : ∀ q, (f q).owner = q.owner) (halive : ∀ q, (f q).isAlive → q.isAlive)
    (hwatched : ∀ q, (f q).watched → q.watched) : Single asked (s.modifyProcess p f) :=
  h.keep rfl (fun _ => s.isAlive_of_modifyProcess p halive) (fun _ => rfl)
    (s.ownerOf?_modifyProcess p howner) (fun _ => s.watched_of_modifyProcess p hwatched)
    (fun _ hi => hi) rfl

/-- The session loses a compiler that has no process. -/
theorem drop (h : Single asked s) {i : SupervisorId} (hfree : s.processOf? i = none)
    (hmine : s.handle = some i ∨ s.handle = none) : Single asked (s.setHandle none) := by
  have hnone := s.handle_setHandle_none
  have hfree' {j : SupervisorId} {p : ProcessId} (hj : s.handle = some j) :
      s.processOf? j ≠ some p := by
    rcases hmine with hmine | hmine
    · rw [← Option.some.inj (hmine.symm.trans hj), hfree]
      simp
    · simp [hmine] at hj
  refine ⟨?_, fun _ => hnone, fun _ _ => .inr hnone, ?_, h.apart⟩
  · intro p hp
    obtain ⟨j, hj, hjp⟩ := h.alive hp
    exact absurd hjp (hfree' hj)
  · intro p j hp hj
    rcases h.watched hp hj with hstops | ⟨hj, hjp⟩
    · exact .inl hstops
    · exact absurd hjp (hfree' hj)

theorem moves (h : Single asked s) (hs : Disciplined asked s) (htask : s.tasks[t]? = some task)
    (hmoves : Moves t request task s s') : Single asked s' := by
  cases hmoves with
  | tell htells htasks _ => exact h.tells htells htasks
  | root root => exact h.modifySession fun _ => rfl
  | record path => exact h.modifySession fun _ => rfl
  | signal p signal => exact h.emit _
  | acquire => exact h.modifySession fun _ => rfl
  | unwatch p => exact h.modifyProcess p (fun _ => rfl) (fun _ hp => hp) (fun _ hp => nomatch hp)
  | halt _ => exact h.modifySupervisor _ (fun _ => rfl) fun _ _ => rfl
  | @detach i hstopping hdead =>
      refine ⟨?_, h.launching, h.attends, ?_, h.apart⟩
      · intro p hp
        obtain ⟨j, hj, hjp⟩ := h.alive hp
        refine ⟨j, hj, ?_⟩
        rw [State.processOf?_detach, if_neg, hjp]
        rintro rfl
        have hdead := hs.not_alive_of_dead hdead (hs.process hjp)
        exact absurd hp (Bool.eq_false_iff.mp hdead)
      · intro p j hp hj
        rw [State.processOf?_detach, State.stopping_detach]
        by_cases heq : j = i
        · exact .inl (heq ▸ hstopping)
        · rw [if_neg heq]
          exact h.watched hp hj
  | @drop i hfree hmine =>
      exact h.drop hfree (hmine.elim .inl fun hmine => h.attends htask hmine)

/-- A task comes to rest where it attends to no compiler but the session's, and in nobody's way. -/
theorem setTask (h : Single asked s) (hrequest : asked[t]? = some request) {task' : Task}
    (hattends : ∀ i, task'.supervisor? = some i → s.handle = some i ∨ s.handle = none)
    (hlaunching : ∀ i stage, task' = .launching i stage → s.handle = none)
    (hapart : task'.isFinished = false → ∀ {t' : TaskId} {other task}, t' ≠ t →
      asked[t']? = some other → s.tasks[t']? = some task → task.isFinished = false →
      request.clashes other = false) : Single asked (s.setTask t task') := by
  refine ⟨h.alive, ?_, ?_, h.watched, ?_⟩
  · intro t' i stage ht'
    rcases Turns.eq_or_of_getElem?_set ht' with ⟨_, heq⟩ | ⟨_, ht'⟩
    · exact hlaunching i stage heq.symm
    · exact h.launching ht'
  · intro t' task i ht' hi
    rcases Turns.eq_or_of_getElem?_set ht' with ⟨_, rfl⟩ | ⟨_, ht'⟩
    · exact hattends i hi
    · exact h.attends ht' hi
  · intro t₁ t₂ request₁ request₂ task₁ task₂ hne hr₁ hr₂ h₁ h₂ hw₁ hw₂
    rcases Turns.eq_or_of_getElem?_set h₁ with ⟨rfl, rfl⟩ | ⟨hne₁, hold₁⟩
    · obtain rfl : request = request₁ := Option.some.inj (hrequest.symm.trans hr₁)
      rcases Turns.eq_or_of_getElem?_set h₂ with ⟨rfl, _⟩ | ⟨hne₂, hold₂⟩
      · exact absurd rfl hne
      · exact hapart hw₁ hne₂ hr₂ hold₂ hw₂
    · rcases Turns.eq_or_of_getElem?_set h₂ with ⟨rfl, rfl⟩ | ⟨hne₂, hold₂⟩
      · obtain rfl : request = request₂ := Option.some.inj (hrequest.symm.trans hr₂)
        rw [Request.clashes_comm]
        exact hapart hw₂ hne₁ hr₁ hold₁ hw₁
      · exact h.apart hne hr₁ hr₂ hold₁ hold₂ hw₁ hw₂

theorem finish (h : Single asked s) (hrequest : asked[t]? = some request)
    (r : Except Fault Answer) : Single asked (s.finish t r) :=
  h.setTask hrequest nofun nofun nofun

theorem endPass (h : Single asked s) (hrequest : asked[t]? = some request)
    (r : Except Fault Answer) : Single asked (s.endPass t r) := by
  refine Single.finish (h.modifySession ?_) hrequest r
  exact fun _ => rfl

end Single

/-- A start that is under way launches its compiler. -/
theorem Disciplined.handle_of_start {asked : List Request} {s : State} (hs : Disciplined asked s)
    (h : Single asked s) {root : Option Path} (hstart : s.UnderWay asked (.start root)) :
    s.handle = none := by
  obtain ⟨t, task, hrequest, htask, hwaits⟩ := hstart
  cases hs.allowed hrequest htask with
  | finished r => cases hwaits
  | launching _ _ => exact h.launching htask
  | waiting hjob => cases hjob
  | exiting hstops _ _ => cases hstops
  | reaping hstops _ _ => cases hstops
  | flushing hsends _ _ => cases hsends

/-- The task of a request, as far as it gets in nobody's way. -/
def Clear (asked : List Request) (s : State) (t : TaskId) (request : Request) (task : Task) :
    Prop :=
  request = .close ∧ task.isFinished ∧ s.handle = none ∨
    (∀ {t' : TaskId} {other task'}, t' ≠ t → asked[t']? = some other → s.tasks[t']? = some task' →
      task'.isFinished = false → request.clashes other = false) ∧
      ∀ root, request = .start (some root) → task.isFinished → s.handle = none

theorem Moves.handle_eq_none {t : TaskId} {request : Request} {task : Task} {s s' : State}
    (h : Moves t request task s s') (hnone : s.handle = none) : s'.handle = none := by
  have hkept {f : Session → Session} (hf : ∀ q, (f q).compiler = q.compiler) :
      (s.modifySession f).handle = none :=
    (s.bind_modifySession hf).trans hnone
  cases h with
  | tell htells _ _ => rw [htells.handle_eq, hnone]
  | root root => exact hkept fun _ => rfl
  | record path => exact hkept fun _ => rfl
  | acquire => exact hkept fun _ => rfl
  | drop _ _ => exact s.handle_setHandle_none
  | _ => exact hnone

theorem Clear.moves {asked : List Request} {s s' : State} {t : TaskId} {request : Request}
    {task : Task} (h : Clear asked s t request task) (hmoves : Moves t request task s s') :
    Clear asked s' t request task := by
  rcases h with ⟨hclose, hfinished, hnone⟩ | ⟨hapart, hstart⟩
  · exact .inl ⟨hclose, hfinished, hmoves.handle_eq_none hnone⟩
  · refine .inr ⟨?_, fun root hroot hf => hmoves.handle_eq_none (hstart root hroot hf)⟩
    rw [hmoves.tasks_eq]
    exact hapart

/-- There is no compiler when a start launches one. -/
theorem Clear.handle_eq_none {asked : List Request} {s : State} {t : TaskId} {root : Path}
    {task : Task} (hclear : Clear asked s t (.start (some root)) task) (h : Single asked s)
    (hs : Disciplined asked s) (hrequest : asked[t]? = some (.start (some root)))
    (htask : s.tasks[t]? = some task) : s.handle = none := by
  rcases hclear with ⟨hclose, _⟩ | ⟨_, hstart⟩
  · cases hclose
  · cases hfinished : task.isFinished with
    | true => exact hstart root rfl hfinished
    | false => exact hs.handle_of_start h ⟨t, task, hrequest, htask, hfinished⟩

namespace Single

variable {asked : List Request} {s s' : State} {t : TaskId} {request : Request} {task : Task}

/-- While a task launches a compiler, no other one launches or stops one. -/
theorem alone (h : Single asked s) (hs : Disciplined asked s) (hrequest : asked[t]? = some request)
    {i : SupervisorId} {stage : LaunchStage} (htask : s.tasks[t]? = some (.launching i stage))
    {t' : TaskId} {task' : Task} (ht' : s.tasks[t']? = some task') (hne : t' ≠ t) :
    task'.supervisor? = none := by
  rw [Option.eq_none_iff_forall_ne_some]
  intro j hj
  obtain ⟨request', hrequest', hwho⟩ := hs.attendant ht' hj
  have hwaits' : task'.isFinished = false := by
    cases task' <;> first | rfl | cases hj
  have hclash := h.apart hne hrequest' hrequest ht' htask hwaits' rfl
  cases hs.allowed hrequest htask with
  | launching hlaunches _ =>
      rcases hwho with ⟨root', rfl⟩ | rfl | ⟨rfl, hturn'⟩
      · cases hlaunches <;> cases hclash
      · cases hlaunches <;> cases hclash
      · cases hlaunches with
        | start root => cases hclash
        | restart hturn => exact hne (Option.some.inj (hturn'.symm.trans hturn))

/-- The session takes a compiler that was created for it, when it has none and none is launched or
stopped. -/
theorem adopt (h : Single asked s) (hs : Disciplined asked s) (hnone : s.handle = none)
    (hidle : ∀ {t : TaskId} {task}, s.tasks[t]? = some task → task.supervisor? = none)
    {i : SupervisorId} (hi : s.Unlaunched i) {process : Process}
    (howner : process.owner = some i) :
    Single asked ((s.adopt i process).setHandle (some i)) := by
  have hhandle : ((s.adopt i process).setHandle (some i)).handle = some i := by
    obtain ⟨q, hq, _⟩ := hs.resident
    exact State.handle_setHandle (by simp [State.adopt, State.modifySupervisor, hq]) _
  have hprocess : ((s.adopt i process).setHandle (some i)).processOf? i =
      some s.processes.length :=
    (State.processOf?_adopt hi.1 process i).trans (if_pos rfl)
  refine ⟨?_, ?_, ?_, ?_, h.apart⟩
  · intro p hp
    have hp' : (s.adopt i process).isAlive p := hp
    rw [State.isAlive_adopt] at hp'
    split at hp'
    · next heq => exact ⟨i, hhandle, by rw [hprocess, heq]⟩
    · simp [h.not_alive hnone p] at hp'
  · intro t j stage ht
    cases hidle ht
  · intro t task j ht hj
    rw [hidle ht] at hj
    cases hj
  · intro p j hp hj
    have hp' : (s.adopt i process).watched p := hp
    have hj' : (s.adopt i process).ownerOf? p = some j := hj
    rw [State.watched_adopt] at hp'
    rw [State.ownerOf?_adopt] at hj'
    split at hp'
    · next heq =>
        rw [if_pos heq, howner, Option.some.injEq] at hj'
        subst hj'
        exact .inr ⟨hhandle, by rw [hprocess, heq]⟩
    · next hne =>
        rw [if_neg hne] at hj'
        rcases h.watched hp' hj' with hstops | ⟨hj, _⟩
        · exact .inl ((State.stopping_adopt s i process j).trans hstops)
        · simp [hnone] at hj

theorem send (h : Single asked s) (hrequest : asked[t]? = some request) {stage : SendStage}
    {command : String} (hsends : Sends request stage command) (i : SupervisorId) (p : ProcessId) :
    Single asked (s.send t i p command stage) := by
  have hlocked : Single asked
      (s.modifySupervisor i fun q => { q with writeLock := q.writeLock.acquire t }) :=
    h.modifySupervisor i (fun _ => rfl) fun _ hi => hi
  have hwritten := (hlocked.emit (.debug ("compiler <- " ++ command))).emit
    (.write p (command ++ State.commandEnd))
  refine hwritten.setTask hrequest nofun nofun ?_
  intro _ t' other _ _ _ _ _
  cases hsends <;> cases other <;> rfl

theorem rests {e : Event} (h : Single asked s) (hs : Disciplined asked s)
    (hrequest : asked[t]? = some request) (htask : s.tasks[t]? = some task)
    (hclear : Clear asked s t request task) (hkill : request ≠ .kill)
    (hrests : Rests e t request task s s') : Single asked s' := by
  have hreleased (i : SupervisorId) : Single asked (s.releaseWrite i) :=
    h.modifySupervisor i (fun _ => rfl) fun _ hi => hi
  cases hrests with
  | wait _ hjob =>
      refine h.setTask hrequest nofun nofun fun _ => ?_
      rcases hclear with ⟨rfl, _⟩ | ⟨hapart, _⟩
      · cases hjob
      · exact hapart
  | finish _ r => exact h.finish hrequest r
  | endPass _ _ r => exact h.endPass hrequest r
  | kill _ hkills _ => exact absurd hkills hkill
  | ask _ hlaunches _ _ hunused hvacant =>
      have hnone : s.handle = none := by
        cases hlaunches with
        | restart => exact hvacant rfl
        | start root => exact hclear.handle_eq_none h hs hrequest htask
      refine ((h.addSupervisor hunused.1).emit _).setTask hrequest (fun _ _ => .inr hnone)
        (fun _ _ _ => hnone) fun _ => ?_
      rcases hclear with ⟨rfl, _⟩ | ⟨hapart, _⟩
      · cases hlaunches
      · exact hapart
  | adopt hlaunching hlaunches howner _ =>
      subst hlaunching
      have hadopted (r : Except Fault Answer) := (h.finish hrequest r).adopt
        (hs.finish hrequest (hs.not_writing htask nofun) r) (h.launching htask)
        (fun ht' => (Turns.eq_or_of_getElem?_set ht').elim (fun heq => heq.2 ▸ rfl)
          fun hother => h.alone hs hrequest htask hother.2 hother.1)
        (hs.unlaunched htask) howner
      cases hlaunches with
      | start root => exact hadopted _
      | restart hturn =>
          refine Single.modifySession (hadopted _) ?_
          exact fun _ => rfl
  | stop _ hmine hstops hallowed hwaits =>
      refine h.setTask hrequest ?_ (fun i stage heq => absurd heq (hwaits i stage)) fun _ => ?_
      · intro j hj
        obtain rfl := Option.some.inj (hj.symm.trans hstops)
        exact hmine.elim .inl fun hmine => h.attends htask hmine
      · rcases hclear with ⟨_, hfinished, hnone⟩ | ⟨hapart, _⟩
        · rcases hmine with hmine | hmine
          · simp [hnone] at hmine
          · cases task <;> cases hfinished; cases hmine
        · exact hapart
  | opens _ _ hopened _ hsends =>
      obtain ⟨htells, htasks⟩ := Tells.of_openPass hopened
      exact (h.tells htells htasks).send hrequest hsends _ _
  | refused _ _ hrefused r =>
      obtain ⟨htells, htasks⟩ := Tells.of_openPass hrefused
      exact (h.tells htells htasks).endPass hrequest r
  | compiles hflush halive hturn hsends _ => exact (hreleased _).send hrequest hsends _ _
  | reloads _ _ _ r => exact ((hreleased _).emit _).endPass hrequest r
  | flushed _ _ _ r => exact (hreleased _).endPass hrequest r

theorem goes {e : Event} (h : Single asked s) (hs : Disciplined asked s)
    (hrequest : asked[t]? = some request) (htask : s.tasks[t]? = some task)
    (hclear : Clear asked s t request task) (hkill : request ≠ .kill)
    (hgoes : Goes e t request task s s') : Single asked s' := by
  induction hgoes with
  | move hmoves _ ih =>
      exact ih (h.moves hs htask hmoves) (hs.moves hmoves) (hmoves.tasks_eq ▸ htask)
        (hclear.moves hmoves)
  | rest hrests => exact h.rests hs hrequest htask hclear hkill hrests

/-- The session's compiler has exited, and this is noticed. -/
theorem noticed (h : Single asked s) {p : ProcessId} {i : SupervisorId} (hwatched : s.watched p)
    (howner : s.ownerOf? p = some i) (hdead : s.isAlive p = false) (hruns : s.stopping i = false) :
    Single asked (((s.unwatch p).forget i p).setHandle none) := by
  obtain hstops | ⟨hi, hip⟩ := h.watched hwatched howner
  · simp [hruns] at hstops
  have hnone := ((s.unwatch p).forget i p).handle_setHandle_none
  have hother {j : SupervisorId} {p' : ProcessId} (hj : s.handle = some j)
      (hjp : s.processOf? j = some p') : p' = p := by
    obtain rfl := Option.some.inj (hi.symm.trans hj)
    exact Option.some.inj (hjp.symm.trans hip)
  refine ⟨?_, fun _ => hnone, fun _ _ => .inr hnone, ?_, h.apart⟩
  · intro p' hp'
    have halive : s.isAlive p' := State.isAlive_of_unwatch (s := s) hp'
    obtain ⟨j, hj, hjp⟩ := h.alive halive
    rw [hother hj hjp, hdead] at halive
    cases halive
  · intro p' j hp' hj
    obtain ⟨hne, hp'⟩ := State.watched_unwatch (s := s) hp'
    rcases h.watched hp' ((s.ownerOf?_unwatch p p').symm.trans hj) with hstops | ⟨hj, hjp⟩
    · exact .inl ((State.stopping_forget (s.unwatch p) i p j).trans hstops)
    · exact absurd (hother hj hjp) hne

theorem addTask (h : Single asked s) (hs : Disciplined asked s) (request : Request)
    (r : Except Fault Answer) :
    Single (asked ++ [request]) { s with tasks := s.tasks ++ [.finished r] } := by
  have hold {t : TaskId} {task : Task} (ht : (s.tasks ++ [.finished r])[t]? = some task)
      (hwaits : task.isFinished = false) {other : Request}
      (hother : (asked ++ [request])[t]? = some other) :
      s.tasks[t]? = some task ∧ asked[t]? = some other := by
    rcases eq_or_of_getElem?_concat ht with ht | ⟨_, rfl⟩
    · refine ⟨ht, ?_⟩
      rwa [List.getElem?_append_left (hs.asks ▸ (List.getElem?_eq_some_iff.mp ht).1)] at hother
    · cases hwaits
  refine ⟨h.alive, ?_, ?_, h.watched, ?_⟩
  · intro t i stage ht
    rcases eq_or_of_getElem?_concat ht with ht | ⟨_, heq⟩
    · exact h.launching ht
    · cases heq
  · intro t task i ht hi
    rcases eq_or_of_getElem?_concat ht with ht | ⟨_, rfl⟩
    · exact h.attends ht hi
    · cases hi
  · intro t t' request request' task task' hne hr hr' ht ht' hw hw'
    obtain ⟨ht, hr⟩ := hold ht hw hr
    obtain ⟨ht', hr'⟩ := hold ht' hw' hr'
    exact h.apart hne hr hr' ht ht' hw hw'

theorem happens {e : Event} (h : Single asked s) (hs : Disciplined asked s)
    (hadmits : ∀ request, e.request? = some request → request ≠ .kill ∧ s.Admits asked request)
    (hhappens : Happens asked e s s') : Single (asked ++ e.request?.toList) s' := by
  have hsame (hcall : e.request? = none) (h' : Single asked s') :
      Single (asked ++ e.request?.toList) s' := by simpa [hcall] using h'
  cases hhappens with
  | tells hcall htells htasks => exact hsame hcall (h.tells htells htasks)
  | exits hcall _ howner hdies hwatched =>
      refine hsame hcall (h.modifyProcess _ howner ?_ ?_)
      · intro q halive
        simp [hdies] at halive
      · intro q hq
        rwa [hwatched] at hq
  | unwatched hcall p htells htasks =>
      refine hsame hcall (Single.tells (s := s.unwatch p) ?_ htells htasks)
      exact h.modifyProcess p (fun _ => rfl) (fun _ halive => halive) (fun _ hw => nomatch hw)
  | noticed hcall hwatched howner hdead hruns htells htasks =>
      exact hsame hcall ((h.noticed hwatched howner hdead hruns).tells htells htasks)
  | @goes _ t request task hevent hrequest htask hwaits hgoes =>
      refine hsame (by cases e <;> cases hevent <;> rfl) (h.goes hs hrequest htask ?_ ?_ hgoes)
      · refine .inr ⟨fun hne hother ht' hw' => ?_, fun _ _ hfinished => ?_⟩
        · exact h.apart hne.symm hrequest hother htask ht' hwaits hw'
        · rw [hwaits] at hfinished
          cases hfinished
      · rintro rfl
        cases hs.allowed hrequest htask with
        | finished r => cases hwaits
        | waiting hjob => cases hjob
        | launching hlaunches _ => cases hlaunches
        | exiting hstops _ _ => cases hstops
        | reaping hstops _ _ => cases hstops
        | flushing hsends _ _ => cases hsends
  | @calls _ request hevent hgoes =>
      subst hevent
      obtain ⟨hkill, hadmits⟩ := hadmits request rfl
      refine (h.addTask hs request _).goes (hs.addTask request _) ?_ ?_ ?_ hkill hgoes
      · simp [hs.asks]
      · simp
      · rcases hadmits with ⟨hclose, hnone⟩ | ⟨hclash, hstart⟩
        · exact .inl ⟨hclose, rfl, hnone⟩
        · refine .inr ⟨fun {t' other task'} hne hother ht' hw' => ?_, fun root hroot _ => hstart root hroot⟩
          rcases eq_or_of_getElem?_concat ht' with ht' | ⟨_, rfl⟩
          · refine hclash other ⟨t', task', ?_, ht', hw'⟩
            rwa [List.getElem?_append_left (hs.asks ▸ (List.getElem?_eq_some_iff.mp ht').1)]
              at hother
          · cases hw'

/-- A run of requests that never get in each other's way. -/
theorem run (h : Single asked s) (hs : Disciplined asked s) {events : List Event}
    (hevents : ∀ e ∈ events, e.ofSession) (horderly : Orderly asked s events) :
    Single (asked ++ requests events) (s.run events) := by
  induction events generalizing s asked with
  | nil => simpa [State.run] using h
  | cons e events ih =>
      rw [List.forall_mem_cons] at hevents
      have hstep := h.happens hs horderly.1 (hs.step_cases hevents.1)
      rw [requests_cons, ← List.append_assoc]
      exact ih hstep (hs.step hevents.1) hevents.2 horderly.2

end Single

end Datapack.Machine
