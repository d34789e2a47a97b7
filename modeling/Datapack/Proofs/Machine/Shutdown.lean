import Datapack.Proofs.Machine.CompilerRequests

/-! The end of a session. It kills the compiler that the session has taken, and nothing else: what
is created later, by a start or a restart that was under way, is left behind. -/

namespace Datapack.Machine

open Diagnostic Text

/-! ### Processes only come and die -/

/-- Nothing that was seen is forgotten, and no process comes back to life. -/
structure Ages (s s' : State) : Prop where
  trace : s.trace.toList <+: s'.trace.toList
  length : s.processes.length ≤ s'.processes.length
  alive : ∀ p < s.processes.length, s'.isAlive p → s.isAlive p

namespace Ages

variable {s s' s'' : State}

theorem refl (s : State) : Ages s s := ⟨List.prefix_refl _, Nat.le_refl _, fun _ _ hp => hp⟩

theorem trans (h : Ages s s') (h' : Ages s' s'') : Ages s s'' :=
  ⟨h.trace.trans h'.trace, Nat.le_trans h.length h'.length,
    fun p hp halive => h.alive p hp (h'.alive p (Nat.lt_of_lt_of_le hp h.length) halive)⟩

/-- Changes that concern neither processes nor what is seen. -/
theorem of_eq (htrace : s'.trace = s.trace) (hprocesses : s'.processes = s.processes) :
    Ages s s' := by
  refine ⟨by rw [htrace], by rw [hprocesses], fun p _ hp => ?_⟩
  rwa [State.isAlive, hprocesses] at hp

theorem emit (s : State) (e : Effect) : Ages s (s.emit e) :=
  ⟨by simp [State.emit], Nat.le_refl _, fun _ _ hp => hp⟩

theorem tells (h : Tells s s') : Ages s s' := by
  obtain ⟨es, htrace, _⟩ := h.trace
  exact ⟨by simp [htrace], Nat.le_of_eq h.length_eq.symm, fun p _ hp => h.isAlive_eq p ▸ hp⟩

theorem modifyProcess (s : State) (p : ProcessId) {f : Process → Process}
    (hf : ∀ q, (f q).isAlive → q.isAlive) : Ages s (s.modifyProcess p f) :=
  ⟨List.prefix_refl _, by simp [State.modifyProcess],
    fun _ _ => s.isAlive_of_modifyProcess p hf⟩

theorem adopt (s : State) (i : SupervisorId) (process : Process) : Ages s (s.adopt i process) := by
  refine ⟨List.prefix_refl _, by simp [State.adopt, State.modifySupervisor], ?_⟩
  intro p hp halive
  rwa [State.isAlive_adopt, if_neg (Nat.ne_of_lt hp)] at halive

theorem moves {t : TaskId} {request : Request} {task : Task} (h : Moves t request task s s') :
    Ages s s' := by
  cases h with
  | tell htells _ _ => exact tells htells
  | signal p signal => exact emit s _
  | unwatch p => exact modifyProcess s p fun _ hp => hp
  | _ => exact of_eq rfl rfl

theorem killSession (s : State) : Ages s s.killSession := by
  cases hhandle : s.handle with
  | none =>
      rw [State.killSession_of_none hhandle]
      exact tells (.clearStream s)
  | some i =>
      rcases State.killSession_of_some hhandle with ⟨p, _, hkill⟩ | ⟨_, hkill⟩
      · rw [hkill]
        refine Ages.trans ?_ (tells (.clearStream _))
        exact (emit s (.signal p .kill)).trans (of_eq rfl rfl)
      · rw [hkill]
        refine Ages.trans ?_ (tells (.clearStream _))
        exact of_eq rfl rfl

theorem send (s : State) (t : TaskId) (i : SupervisorId) (p : ProcessId) (command : String)
    (stage : SendStage) : Ages s (s.send t i p command stage) :=
  ⟨by simp [State.send, State.setTask, State.emit, State.modifySupervisor], Nat.le_refl _,
    fun _ _ hp => hp⟩

theorem closeLaunch (s : State) (t : TaskId) (stage : LaunchStage) (r : Except Fault Answer) :
    Ages s (s.closeLaunch t stage r) := by
  unfold State.closeLaunch
  split <;> exact of_eq rfl rfl

theorem rests {e : Event} {t : TaskId} {request : Request} {task : Task}
    (h : Rests e t request task s s') : Ages s s' := by
  cases h with
  | kill _ _ _ => exact (killSession s).trans (of_eq rfl rfl)
  | ask _ _ _ _ _ _ =>
      refine ⟨?_, Nat.le_refl _, fun _ _ hp => hp⟩
      simp [State.ask, State.setTask, State.emit]
  | @adopt i stage process _ _ _ _ =>
      refine Ages.trans (Ages.trans (adopt s i process) ?_) (closeLaunch _ _ _ _)
      exact of_eq rfl rfl
  | opens _ _ hopened _ _ => exact (tells (Tells.of_openPass hopened).1).trans (send _ t _ _ _ _)
  | refused _ _ hrefused _ => exact (tells (Tells.of_openPass hrefused).1).trans (of_eq rfl rfl)
  | compiles _ _ _ _ _ =>
      refine Ages.trans ?_ (send _ _ _ _ _ _)
      exact of_eq rfl rfl
  | reloads _ _ _ _ => exact (emit s (.notify .reloadServer)).trans (of_eq rfl rfl)
  | _ => exact of_eq rfl rfl

theorem goes {e : Event} {t : TaskId} {request : Request} {task : Task}
    (h : Goes e t request task s s') : Ages s s' := by
  induction h with
  | move hmoves _ ih => exact (moves hmoves).trans ih
  | rest hrests => exact rests hrests

theorem happens {asked : List Request} {e : Event} (h : Happens asked e s s') : Ages s s' := by
  have hunwatch (p : ProcessId) : Ages s (s.unwatch p) := by
    refine modifyProcess s p ?_
    exact fun _ hp => hp
  cases h with
  | tells _ htells _ => exact tells htells
  | exits _ _ _ hdies _ =>
      refine modifyProcess s _ fun q halive => ?_
      simp [hdies] at halive
  | unwatched _ p htells _ => exact (hunwatch p).trans (tells htells)
  | @noticed _ p i _ _ _ _ _ htells _ =>
      refine Ages.trans (Ages.trans (hunwatch p) ?_) (tells htells)
      exact of_eq rfl rfl
  | goes _ _ _ _ hgoes => exact goes hgoes
  | calls _ hgoes =>
      refine Ages.trans ?_ (goes hgoes)
      exact of_eq rfl rfl

theorem run {asked : List Request} (hs : Disciplined asked s) {events : List Event}
    (hevents : ∀ e ∈ events, e.ofSession) : Ages s (s.run events) := by
  induction events generalizing s asked with
  | nil => exact refl s
  | cons e events ih =>
      rw [List.forall_mem_cons] at hevents
      exact (happens (hs.step_cases hevents.1)).trans (ih (hs.step hevents.1) hevents.2)

end Ages

/-! ### What a shutdown leaves behind -/

/-- A process that is alive and was never told to end. -/
def State.LeftBehind (s : State) (p : ProcessId) : Prop :=
  s.isAlive p ∧ ∀ signal, .signal p signal ∉ s.trace.toList

theorem Ages.leftBehind {s s' : State} (h : Ages s s') {p : ProcessId} (hp : s'.LeftBehind p)
    (hlt : p < s.processes.length) : s.LeftBehind p :=
  ⟨h.alive p hlt hp.1, fun signal hmem => hp.2 signal (h.trace.subset hmem)⟩

theorem Outlined.leftBehind {s : State} {o : Outline} (h : Outlined s o) {p : ProcessId}
    {readers : Reader × Reader} (hp : o.processes[p]? = some (true, readers))
    (hspared : o.signalled.contains p = false) : s.LeftBehind p := by
  refine ⟨h.isAlive_eq hp, fun signal hmem => ?_⟩
  rw [← h.signalled, ← Bool.not_eq_true, List.contains_iff_mem] at hspared
  exact hspared (List.mem_filterMap.mpr ⟨_, hmem, rfl⟩)

theorem State.lt_of_isAlive {s : State} {p : ProcessId} (h : s.isAlive p) :
    p < s.processes.length := by
  by_contra hge
  simp [State.isAlive, List.getElem?_eq_none (Nat.le_of_not_lt hge)] at h

theorem State.length_kill (s : State) :
    (s.step (.call .kill)).processes.length = s.processes.length :=
  congrArg List.length (State.processes_killSession _)

/-- Of the processes that are there, a shutdown leaves none behind, if the session has not lost sight
of any. -/
theorem Single.not_leftBehind_kill {asked : List Request} {s : State} (h : Single asked s)
    (p : ProcessId) : ¬(s.step (.call .kill)).LeftBehind p := by
  rintro ⟨halive, hsignals⟩
  have hp := s.length_kill ▸ State.lt_of_isAlive halive
  generalize hnew : { s with tasks := s.tasks ++ [Task.finished (.ok .nothing)] } = s₁
  have hstep : s.step (.call .kill) = s₁.killSession.done s.tasks.length := by rw [← hnew]; rfl
  have hages : Ages s₁ (s.step (.call .kill)) := by
    rw [hstep]
    exact (Ages.killSession s₁).trans (.of_eq rfl rfl)
  have halive₁ : s₁.isAlive p := hages.alive p (by rwa [← hnew]) halive
  obtain ⟨i, hi, hip⟩ := h.alive (p := p) (by rwa [← hnew] at halive₁)
  have hprocess : s₁.aliveProcess? i = some p := by
    rw [State.aliveProcess?_eq_some_iff]
    exact ⟨by rwa [← hnew], halive₁⟩
  rcases State.killSession_of_some (s := s₁) (i := i) (by rwa [← hnew]) with
    ⟨p', hp', hkill⟩ | ⟨hnone, _⟩
  · obtain rfl := Option.some.inj (hprocess.symm.trans hp')
    refine hsignals .kill ?_
    rw [hstep, hkill]
    simp [State.done, State.finish, State.setTask, State.clearStream, State.modifySession,
      State.setHandle, State.emit]
  · simp [hprocess] at hnone

/-- Nothing is under way that launches a compiler. -/
def State.Calm (s : State) (asked : List Request) : Prop :=
  ∀ request, s.UnderWay asked request → request ≠ .restart ∧ request.starts = false

theorem Moves.length_eq {t : TaskId} {request : Request} {task : Task} {s s' : State}
    (h : Moves t request task s s') : s'.processes.length = s.processes.length := by
  cases h with
  | tell htells _ _ => exact htells.length_eq
  | unwatch p => exact List.length_modify _ _ _
  | _ => rfl

/-- Only what launches a compiler adds a process. -/
theorem Rests.length_eq {e : Event} {t : TaskId} {request : Request} {task : Task} {s s' : State}
    (h : Rests e t request task s s') (hcalm : request ≠ .restart ∧ request.starts = false) :
    s'.processes.length = s.processes.length := by
  cases h with
  | kill _ _ _ => exact congrArg List.length s.processes_killSession
  | adopt _ hlaunches _ _ =>
      cases hlaunches with
      | start root => cases hcalm.2
      | restart => exact absurd rfl hcalm.1
  | opens _ _ hopened _ _ => exact (Tells.of_openPass hopened).1.length_eq
  | refused _ _ hrefused _ => exact (Tells.of_openPass hrefused).1.length_eq
  | _ => rfl

theorem Goes.length_eq {e : Event} {t : TaskId} {request : Request} {task : Task} {s s' : State}
    (h : Goes e t request task s s') (hcalm : request ≠ .restart ∧ request.starts = false) :
    s'.processes.length = s.processes.length := by
  induction h with
  | move hmoves _ ih => exact ih.trans hmoves.length_eq
  | rest hrests => exact hrests.length_eq hcalm

namespace State.Calm

variable {asked : List Request} {s : State}

/-- What is under way was under way before. -/
theorem step (h : s.Calm asked) (hs : Disciplined asked s) {e : Event}
    (hnew : ∀ request, e.request? = some request → request ≠ .restart ∧ request.starts = false) :
    (s.step e).Calm (asked ++ e.request?.toList) := by
  rintro request ⟨t, task, hrequest, htask, hwaits⟩
  by_cases ht : t < asked.length
  · rw [List.getElem?_append_left ht] at hrequest
    obtain ⟨old, hold⟩ : ∃ old, s.tasks[t]? = some old :=
      ⟨_, List.getElem?_eq_getElem (hs.asks.symm ▸ ht)⟩
    refine h request ⟨t, old, hrequest, hold, ?_⟩
    cases old with
    | finished r =>
        rw [State.step_finished hold, Option.some.injEq] at htask
        rw [← htask] at hwaits
        cases hwaits
    | _ => rfl
  · rw [List.getElem?_append_right (Nat.le_of_not_lt ht)] at hrequest
    exact hnew request (by simpa using List.mem_of_getElem? hrequest)

theorem length_step (h : s.Calm asked) (hs : Disciplined asked s) {e : Event} (he : e.ofSession)
    (hnew : ∀ request, e.request? = some request → request ≠ .restart ∧ request.starts = false) :
    (s.step e).processes.length = s.processes.length := by
  have hhappens := hs.step_cases he
  generalize s.step e = s' at hhappens
  cases hhappens with
  | tells _ htells _ => exact htells.length_eq
  | exits _ _ _ _ _ => exact List.length_modify _ _ _
  | unwatched _ p htells _ => exact htells.length_eq.trans (List.length_modify _ _ _)
  | noticed _ _ _ _ _ htells _ => exact htells.length_eq.trans (List.length_modify _ _ _)
  | goes _ hrequest htask hwaits hgoes =>
      exact hgoes.length_eq (h _ ⟨_, _, hrequest, htask, hwaits⟩)
  | calls hevent hgoes =>
      subst hevent
      exact hgoes.length_eq (hnew _ rfl)

theorem length_run (h : s.Calm asked) (hs : Disciplined asked s) {events : List Event}
    (hevents : requests events = []) : (s.run events).processes.length = s.processes.length := by
  induction events generalizing s asked with
  | nil => rfl
  | cons e events ih =>
      rw [requests_cons, List.append_eq_nil_iff, Option.toList_eq_nil_iff] at hevents
      have he : e.ofSession := by simp [Event.ofSession, hevents.1]
      have hnew : ∀ request, e.request? = some request →
          request ≠ .restart ∧ request.starts = false := by simp [hevents.1]
      exact (ih (h.step hs hnew) (hs.step he) hevents.2).trans (h.length_step hs he hnew)

end State.Calm

theorem Event.ofSession_of_requests {events : List Event} (h : requests events = []) :
    ∀ e ∈ events, e.ofSession := by
  intro e he
  have hnone : e.request? = none := List.filterMap_eq_nil_iff.mp h e he
  simp [Event.ofSession, hnone]

section Shutdown

variable {asked : List Request} {s : State} {after : List Event}

/-- Whatever is left behind was created after the shutdown. -/
theorem Single.created_after_kill (h : Single asked s) (hs : Disciplined asked s)
    (hafter : requests after = []) {p : ProcessId}
    (hp : (s.run (.call .kill :: after)).LeftBehind p) : s.processes.length ≤ p := by
  refine Nat.le_of_not_lt fun hlt => h.not_leftBehind_kill p ?_
  have hages : Ages (s.step (.call .kill)) (s.run (.call .kill :: after)) :=
    Ages.run (hs.step rfl) (Event.ofSession_of_requests hafter)
  exact hages.leftBehind hp (s.length_kill.symm ▸ hlt)

/-- Nothing is left behind if nothing was under way that launches a compiler. -/
theorem Single.not_leftBehind (h : Single asked s) (hs : Disciplined asked s) (hcalm : s.Calm asked)
    (hafter : requests after = []) (p : ProcessId) :
    ¬(s.run (.call .kill :: after)).LeftBehind p := by
  intro hp
  have hkill : ∀ request, (Event.call .kill).request? = some request →
      request ≠ .restart ∧ request.starts = false := by
    rintro request ⟨⟩
    exact ⟨nofun, rfl⟩
  have hlength : (s.run (.call .kill :: after)).processes.length = s.processes.length :=
    ((hcalm.step hs hkill).length_run (hs.step rfl) hafter).trans s.length_kill
  have hlt := State.lt_of_isAlive hp.1
  rw [hlength] at hlt
  exact Nat.not_le.mpr hlt (h.created_after_kill hs hafter hp)

end Shutdown

/-! ### All interleavings -/

/-- In every interleaving of the tasks of some of the requests with a shutdown, nothing is left
behind once all of them have finished. -/
def State.LeavesNothing (s : State) (asked : List Request) : Prop :=
  ∀ before after, (requests before).Subperm asked → requests after = [] →
    (∀ task ∈ (s.run (before ++ .call .kill :: after)).tasks, task.isFinished) →
    ∀ p, ¬(s.run (before ++ .call .kill :: after)).LeftBehind p

section Clashes

variable {session : Session} (h : session.Fresh) (files : FileTree) (root root' : Path)
include h

/-- The compiler is created after the shutdown. -/
theorem leftBehind_of_start :
    let s := (State.opened session files).run
      [.call (.start (some root)), .call .kill, .launched 0 (.ok ())]
    (∀ task ∈ s.tasks, task.isFinished) ∧ s.LeftBehind 0 := by
  have hkilled := ((outlined_opened h files).start root).kill_vacant rfl
  have hlaunched := hkilled.launched_start (t := 0) rfl rfl
  simp only [State.run, List.foldl]
  exact ⟨hlaunched.finished rfl, hlaunched.leftBehind rfl rfl⟩

/-- The compiler that was there is killed, the one that is created later is not. -/
theorem leftBehind_of_startAgain :
    let s := (started session root files).run
      [.call (.start (some root')), .call .kill, .launched 1 (.ok ())]
    (∀ task ∈ s.tasks, task.isFinished) ∧ s.LeftBehind 1 := by
  have hkilled := ((outlined_started h files root).start root').kill rfl rfl rfl
  have hlaunched := hkilled.launched_start (t := 1) rfl rfl
  simp only [State.run, List.foldl]
  exact ⟨hlaunched.finished rfl, hlaunched.leftBehind rfl rfl⟩

/-- The restart goes on when the compiler that was killed has exited. -/
def restartAndKill : List Event :=
  [.call .restart, .call .kill, .exit 0 0, .exitSeen 1, .proceed 1, .launched 1 (.ok ())]

theorem leftBehind_of_restart :
    let s := (started session root files).run restartAndKill
    (∀ task ∈ s.tasks, task.isFinished) ∧ s.LeftBehind 1 := by
  have hrestarting := (outlined_started h files root).restart rfl rfl rfl rfl
  have hkilled := hrestarting.kill rfl rfl rfl
  have hreaping := (hkilled.exit (p := 0) rfl 0).exitSeen_reading (t := 1) rfl rfl rfl
  have hlaunching := hreaping.proceed_restart (t := 1) rfl rfl rfl
  have hlaunched := hlaunching.launched_restart (t := 1) rfl rfl
  simp only [restartAndKill, State.run, List.foldl]
  exact ⟨hlaunched.finished rfl, hlaunched.leftBehind rfl rfl⟩

end Clashes

section Exact

variable {session : Session} {asked : List Request}

theorem leavesNothing_opened_iff (h : session.Fresh) (files : FileTree)
    (hasked : ∀ request ∈ asked, request.ofLife) :
    (State.opened session files).LeavesNothing asked ↔
      ∀ request ∈ asked, request.starts = false := by
  constructor
  · intro hnothing request hmem
    rw [Bool.eq_false_iff]
    intro hstarts
    obtain ⟨root, rfl⟩ := Request.eq_start hstarts
    obtain ⟨hfinished, hleft⟩ := leftBehind_of_start h files root
    exact hnothing [.call (.start (some root))] [.launched 0 (.ok ())]
      (List.singleton_subperm_iff.mpr hmem) rfl hfinished 0 hleft
  · intro hstarts before after hbefore hafter _ p hleft
    have hsession : ∀ e ∈ before ++ .call .kill :: after, e.ofSession := by
      intro e he
      rcases List.mem_append.mp he with he | he
      · exact Event.ofSession_of_subperm hasked hbefore e he
      · rcases List.mem_cons.mp he with rfl | he
        · rfl
        · exact Event.ofSession_of_requests hafter e he
    have hrootless := (rootless_opened h files).run (disciplined_opened h.mode files) hsession ?_
    · have halive := State.lt_of_isAlive hleft.1
      simp [hrootless.processes] at halive
    · intro request hrequest
      rw [List.nil_append, requests_append, requests_cons, hafter] at hrequest
      rcases List.mem_append.mp hrequest with hrequest | hrequest
      · exact hstarts request (hbefore.subset hrequest)
      · rw [List.append_nil, Option.mem_toList] at hrequest
        cases hrequest
        rfl

theorem leavesNothing_started_iff (h : session.Fresh) (root : Path) (files : FileTree)
    (hasked : ∀ request ∈ asked, request.ofLife) :
    (started session root files).LeavesNothing asked ↔
      (∀ request ∈ asked, request.starts = false) ∧ .restart ∉ asked := by
  constructor
  · intro hnothing
    refine ⟨fun request hmem => ?_, fun hmem => ?_⟩
    · rw [Bool.eq_false_iff]
      intro hstarts
      obtain ⟨root', rfl⟩ := Request.eq_start hstarts
      obtain ⟨hfinished, hleft⟩ := leftBehind_of_startAgain h files root root'
      exact hnothing [.call (.start (some root'))] [.launched 1 (.ok ())]
        (List.singleton_subperm_iff.mpr hmem) rfl hfinished 1 hleft
    · obtain ⟨hfinished, hleft⟩ := leftBehind_of_restart h files root
      exact hnothing [.call .restart] (restartAndKill.drop 2) (List.singleton_subperm_iff.mpr hmem)
        rfl hfinished 1 hleft
  · rintro ⟨hstarts, hrestart⟩ before after hbefore hafter _ p hleft
    have hsession := Event.ofSession_of_subperm hasked hbefore
    have hs := (disciplined_started h root files).run hsession
    have hsingle := (single_started h root files).run (disciplined_started h root files) hsession
      (orderly_of_no_start h hasked hstarts (.inl hrestart) hbefore)
    have hsplit : (started session root files).run (before ++ .call .kill :: after) =
        ((started session root files).run before).run (.call .kill :: after) := List.foldl_append
    rw [hsplit] at hleft
    refine hsingle.not_leftBehind hs ?_ hafter p hleft
    intro request hunder
    have hmem := hbefore.subset (mem_of_underWay_started h hunder)
    exact ⟨fun heq => hrestart (heq ▸ hmem), hstarts request hmem⟩

/-- In every interleaving of some requests with its shutdown a new session leaves no compiler behind
exactly if there is no start, a session that was started exactly if there is no start and no
restart. If no request got in the way of another one before the shutdown, whatever is left behind
was created after it, and nothing is if neither a start nor a restart was under way. -/
theorem nothing_left_behind_iff_requests (h : session.Fresh) (root : Path) (files : FileTree)
    (hasked : ∀ request ∈ asked, request.ofLife) :
    ((State.opened session files).LeavesNothing asked ↔
      ∀ request ∈ asked, request.starts = false) ∧
    ((started session root files).LeavesNothing asked ↔
      (∀ request ∈ asked, request.starts = false) ∧ .restart ∉ asked) ∧
    ∀ before after : List Event, (∀ e ∈ before, e.ofSession) →
      Orderly [] (State.opened session files) before → requests after = [] →
      let s := (State.opened session files).run before
      ∀ p, (s.run (.call .kill :: after)).LeftBehind p →
        s.processes.length ≤ p ∧ ¬s.Calm (requests before) := by
  refine ⟨leavesNothing_opened_iff h files hasked, leavesNothing_started_iff h root files hasked, ?_⟩
  intro before after hbefore horderly hafter s p hleft
  have hs : Disciplined (requests before) s := (disciplined_opened h.mode files).run hbefore
  have hsingle : Single (requests before) s :=
    (single_opened session files).run (disciplined_opened h.mode files) hbefore horderly
  exact ⟨hsingle.created_after_kill hs hafter hleft,
    fun hcalm => hsingle.not_leftBehind hs hcalm hafter p hleft⟩

end Exact

/-- Saves and requests to compile leave nothing behind. -/
theorem nothing_left_behind_of_savedSession :
    let root := Path.ofString "/ws"
    savedSession.Fresh ∧
    (∀ request ∈ [Request.save "file:///ws/a.dps", .compile], request.ofLife) ∧
    (started savedSession root {}).LeavesNothing [.save "file:///ws/a.dps", .compile] := by
  have hasked : ∀ request ∈ [Request.save "file:///ws/a.dps", .compile], request.ofLife := by
    simp [Request.ofLife]
  refine ⟨savedSession_fresh, hasked, ?_⟩
  exact (nothing_left_behind_iff_requests savedSession_fresh (Path.ofString "/ws") {} hasked).2.1.mpr
    ⟨by simp [Request.starts], by simp⟩

/-- A shutdown that comes while the session is being started leaves its compiler behind. -/
theorem start_left_behind :
    let s := (State.opened savedSession {}).run
      [.call (.start (some (Path.ofString "/ws"))), .call .kill, .launched 0 (.ok ())]
    (∀ task ∈ s.tasks, task.isFinished) ∧ s.LeftBehind 0 ∧
    ¬(State.opened savedSession {}).LeavesNothing [.start (some (Path.ofString "/ws"))] := by
  obtain ⟨hfinished, hleft⟩ := leftBehind_of_start savedSession_fresh {} (Path.ofString "/ws")
  refine ⟨hfinished, hleft, fun hnothing => ?_⟩
  exact hnothing [.call (.start (some (Path.ofString "/ws")))] [.launched 0 (.ok ())]
    (List.Subperm.refl _) rfl hfinished 0 hleft

end Datapack.Machine
