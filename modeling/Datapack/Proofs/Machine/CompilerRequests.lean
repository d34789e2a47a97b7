import Datapack.Proofs.Machine.Outlines
import Datapack.Proofs.Machine.SingleCompiler
import Mathlib.Data.List.Perm.Subperm

/-! Which requests a session can take in any interleaving without ever having two compilers, or one
that it has lost sight of. -/

namespace Datapack.Machine

open Diagnostic Text

/-- What a client asks of its session between its start and its end. -/
def Request.ofLife : Request → Bool
  | start _ | restart | close | save _ | compile => true
  | _ => false

/-- Whether a request starts a compiler. -/
def Request.starts : Request → Bool
  | start (some _) => true
  | _ => false

/-- At most one process is alive, and when all tasks have finished it is the one of the session's
compiler. -/
def State.OneCompiler (s : State) : Prop :=
  (∀ p p', s.isAlive p → s.isAlive p' → p = p') ∧
    ((∀ task ∈ s.tasks, task.isFinished) →
      ∀ p, s.isAlive p → ∃ i, s.handle = some i ∧ s.processOf? i = some p)

/-- A session that was never asked for anything. -/
structure Session.Fresh (q : Session) : Prop where
  mode : q.settings.mode = .persistent
  compiler : q.compiler = none
  lock : q.lock = {}
  root : q.root = none

theorem Single.oneCompiler {asked : List Request} {s : State} (h : Single asked s) :
    s.OneCompiler := by
  refine ⟨?_, fun _ p hp => h.alive hp⟩
  intro p p' hp hp'
  obtain ⟨i, hi, hip⟩ := h.alive hp
  obtain ⟨j, hj, hjp⟩ := h.alive hp'
  obtain rfl := Option.some.inj (hi.symm.trans hj)
  exact Option.some.inj (hip.symm.trans hjp)

theorem single_opened (session : Session) (files : FileTree) :
    Single [] (State.opened session files) := by
  refine ⟨?_, ?_, ?_, ?_, ?_⟩
  all_goals simp [State.opened, State.isAlive, State.watched, State.ownerOf?]

/-! ### Before the first start -/

/-- A session that has no root has no compiler. -/
structure Rootless (s : State) : Prop where
  root : s.root = none
  handle : s.handle = none
  processes : s.processes = []
  supervisors : s.supervisors = []

namespace Rootless

variable {asked : List Request} {s s' : State} {t : TaskId} {request : Request} {task : Task}

theorem ownerOf?_eq_none (h : Rootless s) (p : ProcessId) : s.ownerOf? p = none := by
  simp [State.ownerOf?, h.processes]

theorem aliveProcess?_eq_none (h : Rootless s) (i : SupervisorId) : s.aliveProcess? i = none := by
  simp [State.aliveProcess?, h.supervisors]

theorem tells (h : Rootless s) (htells : Tells s s') : Rootless s' := by
  refine ⟨htells.root_eq.trans h.root, htells.handle_eq.trans h.handle, ?_,
    htells.supervisors.trans h.supervisors⟩
  rw [← List.length_eq_zero_iff, htells.length_eq, h.processes]
  rfl

theorem emit (h : Rootless s) (e : Effect) : Rootless (s.emit e) :=
  ⟨h.root, h.handle, h.processes, h.supervisors⟩

theorem modifySession (h : Rootless s) {f : Session → Session}
    (hroot : ∀ q, (f q).root = q.root ∨ (f q).root = none)
    (hcompiler : ∀ q, (f q).compiler = q.compiler ∨ (f q).compiler = none) :
    Rootless (s.modifySession f) := by
  refine ⟨?_, ?_, h.processes, h.supervisors⟩
  · have hnone := Option.bind_eq_none_iff.mp h.root
    refine Option.bind_eq_none_iff.mpr fun q' hq' => ?_
    obtain ⟨q, hq, rfl⟩ := Option.map_eq_some_iff.mp hq'
    exact (hroot q).elim (fun heq => heq.trans (hnone q hq)) id
  · have hnone := Option.bind_eq_none_iff.mp h.handle
    refine Option.bind_eq_none_iff.mpr fun q' hq' => ?_
    obtain ⟨q, hq, rfl⟩ := Option.map_eq_some_iff.mp hq'
    exact (hcompiler q).elim (fun heq => heq.trans (hnone q hq)) id

theorem modifySupervisor (h : Rootless s) (i : SupervisorId) (f : Supervisor → Supervisor) :
    Rootless (s.modifySupervisor i f) :=
  ⟨h.root, h.handle, h.processes, by simp [State.modifySupervisor, h.supervisors]⟩

theorem modifyProcess (h : Rootless s) (p : ProcessId) (f : Process → Process) :
    Rootless (s.modifyProcess p f) :=
  ⟨h.root, h.handle, by simp [State.modifyProcess, h.processes], h.supervisors⟩

theorem moves (h : Rootless s) (hstarts : request.starts = false)
    (hmoves : Moves t request task s s') : Rootless s' := by
  cases hmoves with
  | tell htells _ _ => exact h.tells htells
  | root root hroot =>
      subst hroot
      cases root with
      | none => exact h.modifySession (fun _ => .inr rfl) (fun _ => .inl rfl)
      | some root => cases hstarts
  | record path => exact h.modifySession (fun _ => .inl rfl) (fun _ => .inl rfl)
  | signal p signal => exact h.emit _
  | acquire => exact h.modifySession (fun _ => .inl rfl) (fun _ => .inl rfl)
  | unwatch p => exact h.modifyProcess p _
  | halt _ => exact h.modifySupervisor _ _
  | detach _ _ => exact h.modifySupervisor _ _
  | drop _ _ => exact h.modifySession (fun _ => .inl rfl) (fun _ => .inr rfl)

theorem endPass (h : Rootless s) (t : TaskId) (r : Except Fault Answer) :
    Rootless (s.endPass t r) := by
  have hreleased := h.modifySession (f := fun q => { q with lock := q.lock.release })
    (fun _ => .inl rfl) (fun _ => .inl rfl)
  exact ⟨hreleased.root, hreleased.handle, h.processes, h.supervisors⟩

/-- Nothing is launched and nothing is sent without a root. -/
theorem rests {e : Event} (h : Rootless s) (hs : Disciplined asked s)
    (htask : s.tasks[t]? = some task) (hrests : Rests e t request task s s') : Rootless s' := by
  have hset (task' : Task) : Rootless (s.setTask t task') :=
    ⟨h.root, h.handle, h.processes, h.supervisors⟩
  cases hrests with
  | wait _ _ => exact hset _
  | finish _ r => exact hset _
  | endPass _ _ r => exact h.endPass t r
  | kill _ _ r =>
      rw [State.killSession_of_none h.handle]
      exact (h.tells (.clearStream s)).tells (.setTask _ t _)
  | ask _ _ hroot => simp [h.root] at hroot
  | adopt hlaunching =>
      subst hlaunching
      have hi := (hs.unlaunched htask).1
      simp [h.supervisors] at hi
  | stop _ _ _ _ _ => exact hset _
  | opens _ _ _ halive => simp [h.aliveProcess?_eq_none] at halive
  | refused _ _ hrefused r => exact (h.tells (Tells.of_openPass hrefused).1).endPass t r
  | compiles _ halive => simp [h.aliveProcess?_eq_none] at halive
  | @reloads i _ _ _ _ _ r =>
      have hreleased : Rootless (s.releaseWrite i) := h.modifySupervisor i _
      exact (hreleased.emit (.notify .reloadServer)).endPass t r
  | @flushed i _ _ _ _ _ _ r =>
      have hreleased : Rootless (s.releaseWrite i) := h.modifySupervisor i _
      exact hreleased.endPass t r

theorem goes {e : Event} (h : Rootless s) (hs : Disciplined asked s)
    (hstarts : request.starts = false) (htask : s.tasks[t]? = some task)
    (hgoes : Goes e t request task s s') : Rootless s' := by
  induction hgoes with
  | move hmoves _ ih => exact ih (h.moves hstarts hmoves) (hs.moves hmoves) (hmoves.tasks_eq ▸ htask)
  | rest hrests => exact h.rests hs htask hrests

theorem happens {e : Event} (h : Rootless s) (hs : Disciplined asked s)
    (hasked : ∀ request ∈ asked ++ e.request?.toList, request.starts = false)
    (hhappens : Happens asked e s s') : Rootless s' := by
  cases hhappens with
  | tells _ htells _ => exact h.tells htells
  | exits _ _ _ _ _ => exact h.modifyProcess _ _
  | unwatched _ p htells _ => exact Rootless.tells (h.modifyProcess p _) htells
  | noticed _ _ howner => simp [h.ownerOf?_eq_none] at howner
  | goes _ hrequest htask _ hgoes =>
      refine h.goes hs (hasked _ ?_) htask hgoes
      exact List.mem_append_left _ (List.mem_of_getElem? hrequest)
  | @calls _ request hevent hgoes =>
      subst hevent
      refine Rootless.goes ?_ (hs.addTask request _) (hasked request ?_) ?_ hgoes
      · exact ⟨h.root, h.handle, h.processes, h.supervisors⟩
      · simp [Event.request?]
      · simp

theorem run (h : Rootless s) (hs : Disciplined asked s) {events : List Event}
    (hevents : ∀ e ∈ events, e.ofSession)
    (hasked : ∀ request ∈ asked ++ requests events, request.starts = false) :
    Rootless (s.run events) := by
  induction events generalizing s asked with
  | nil => exact h
  | cons e events ih =>
      rw [List.forall_mem_cons] at hevents
      rw [requests_cons, ← List.append_assoc] at hasked
      refine ih (h.happens hs ?_ (hs.step_cases hevents.1)) (hs.step hevents.1) hevents.2 hasked
      exact fun request hrequest => hasked request (List.mem_append_left _ hrequest)

end Rootless

theorem rootless_opened {session : Session} (h : session.Fresh) (files : FileTree) :
    Rootless (State.opened session files) :=
  ⟨h.root, h.compiler, rfl, rfl⟩

/-! ### Orderly runs -/

theorem orderly_concat {asked : List Request} {s : State} {events : List Event} {e : Event} :
    Orderly asked s (events ++ [e]) ↔ Orderly asked s events ∧
      ∀ request, e.request? = some request →
        request ≠ .kill ∧ (s.run events).Admits (asked ++ requests events) request := by
  induction events generalizing asked s with
  | nil => simp [Orderly, State.run]
  | cons e' events ih =>
      rw [List.cons_append, Orderly, ih, requests_cons, Orderly, and_assoc]
      simp [State.run]

/-- A request that is under way was made. -/
theorem State.UnderWay.mem {s : State} {asked : List Request} {request : Request}
    (h : s.UnderWay asked request) : request ∈ asked := by
  obtain ⟨t, _, hrequest, _⟩ := h
  exact List.mem_of_getElem? hrequest

theorem Request.ofSession_of_ofLife {request : Request} (h : request.ofLife) :
    request.ofSession ∧ request ≠ .kill := by
  cases request <;> cases h <;> exact ⟨rfl, nofun⟩

theorem Event.ofSession_of_subperm {asked : List Request} (hasked : ∀ request ∈ asked, request.ofLife)
    {events : List Event} (hevents : (requests events).Subperm asked) :
    ∀ e ∈ events, e.ofSession := by
  intro e he
  cases hcall : e.request? with
  | none => simp [Event.ofSession, hcall]
  | some request =>
      have hmem : request ∈ requests events := List.mem_filterMap.mpr ⟨e, he, hcall⟩
      simpa [Event.ofSession, hcall] using
        (Request.ofSession_of_ofLife (hasked request (hevents.subset hmem))).1

/-- A close that is under way stops a process that was launched. -/
theorem Disciplined.owner_of_close {asked : List Request} {s : State} (hs : Disciplined asked s)
    (hclose : s.UnderWay asked .close) : ∃ p i, s.ownerOf? p = some i := by
  obtain ⟨t, task, hrequest, htask, hwaits⟩ := hclose
  cases hs.allowed hrequest htask with
  | finished r => cases hwaits
  | launching hlaunches _ => cases hlaunches
  | waiting hjob => cases hjob
  | exiting _ _ howner => exact ⟨_, _, howner⟩
  | reaping _ _ hdead => exact hdead.elim fun p hp => ⟨p, _, hp.1⟩
  | flushing hsends _ _ => cases hsends

section Admissions

variable {asked : List Request} {s : State}

theorem State.admits_of_clashes_eq_false {request : Request}
    (hfree : ∀ other, request.clashes other = false) (hstart : request.starts = false) :
    s.Admits asked request := by
  refine .inr ⟨fun other _ => hfree other, ?_⟩
  rintro root rfl
  cases hstart

/-- The first start gets in nobody's way, if there is no restart. -/
theorem Rootless.admits_start (h : Rootless s) (hs : Disciplined asked s)
    (hstarts : ∀ request ∈ asked, request.starts = false) (hrestart : Request.restart ∉ asked)
    (root : Path) : s.Admits asked (.start (some root)) := by
  refine .inr ⟨fun other hunder => ?_, fun _ _ => h.handle⟩
  cases other with
  | start root' =>
      cases root' with
      | none => rfl
      | some root' => cases hstarts _ hunder.mem
  | restart => exact absurd hunder.mem hrestart
  | close =>
      obtain ⟨p, i, howner⟩ := hs.owner_of_close hunder
      simp [h.ownerOf?_eq_none] at howner
  | _ => rfl

/-- A close gets in nobody's way, if there is no restart: while a start is under way, the session has
no compiler. -/
theorem Single.admits_close (h : Single asked s) (hs : Disciplined asked s)
    (hrestart : Request.restart ∉ asked) : s.Admits asked .close := by
  by_cases hhandle : s.handle = none
  · exact .inl ⟨rfl, hhandle⟩
  · refine .inr ⟨fun other hunder => ?_, by rintro _ ⟨⟩⟩
    cases other with
    | start root => exact absurd (hs.handle_of_start h hunder) hhandle
    | restart => exact absurd hunder.mem hrestart
    | _ => rfl

end Admissions

section Interleavings

variable {session : Session} {files : FileTree} {asked : List Request} {events : List Event}

/-- One start gets in nobody's way, if there is no restart. -/
theorem orderly_of_one_start (h : session.Fresh) (hasked : ∀ request ∈ asked, request.ofLife)
    (hstarts : asked.countP (·.starts) ≤ 1) (hrestart : Request.restart ∉ asked)
    (hevents : (requests events).Subperm asked) :
    Orderly [] (State.opened session files) events := by
  induction events using List.reverseRecOn with
  | nil => trivial
  | append_singleton events e ih =>
      rw [requests_append] at hevents
      have hbefore : (requests events).Subperm asked :=
        (List.sublist_append_left _ _).subperm.trans hevents
      have horderly := ih hbefore
      have hopened := disciplined_opened h.mode files
      have hsession := Event.ofSession_of_subperm hasked hbefore
      have hs : Disciplined (requests events) ((State.opened session files).run events) := by
        simpa using hopened.run hsession
      have hsingle : Single (requests events) ((State.opened session files).run events) := by
        simpa using (single_opened session files).run hopened hsession horderly
      have hnorestart : Request.restart ∉ requests events := fun hmem =>
        hrestart (hbefore.subset hmem)
      rw [orderly_concat, List.nil_append]
      refine ⟨horderly, fun request hrequest => ?_⟩
      have hnew : requests [e] = [request] := by simp [requests, hrequest]
      rw [hnew] at hevents
      have hmem : request ∈ asked := hevents.subset (by simp)
      refine ⟨(Request.ofSession_of_ofLife (hasked request hmem)).2, ?_⟩
      cases request with
      | start root =>
          cases root with
          | none =>
              refine State.admits_of_clashes_eq_false (fun other => ?_) rfl
              cases other <;> rfl
          | some root =>
              -- This is the first start.
              have hnone : ∀ request ∈ requests events, request.starts = false := by
                have hcount := Nat.le_trans (hevents.countP_le (·.starts)) hstarts
                rw [List.countP_append] at hcount
                have hzero : (requests events).countP (·.starts) = 0 := by
                  simpa [Request.starts] using hcount
                simpa using List.countP_eq_zero.mp hzero
              have hrootless := (rootless_opened h files).run hopened hsession (by simpa using hnone)
              exact hrootless.admits_start hs hnone hnorestart root
      | restart => exact absurd hmem hrestart
      | close => exact hsingle.admits_close hs hnorestart
      | save uri =>
          refine State.admits_of_clashes_eq_false (fun other => ?_) rfl
          cases other <;> rfl
      | compile =>
          refine State.admits_of_clashes_eq_false (fun other => ?_) rfl
          cases other <;> rfl
      | _ => cases hasked _ hmem

end Interleavings

theorem State.run_finished {s : State} {t : TaskId} {r : Except Fault Answer}
    (h : s.tasks[t]? = some (.finished r)) (events : List Event) :
    (s.run events).tasks[t]? = some (.finished r) := by
  induction events generalizing s with
  | nil => exact h
  | cons e events ih => exact ih (State.step_finished h e)

section Started

variable {session : Session} {files : FileTree} {root : Path} {asked : List Request}
  {events : List Event}

/-- The events that start a session. -/
def startUp (root : Path) : List Event := [.call (.start (some root)), .launched 0 (.ok ())]

theorem disciplined_started (h : session.Fresh) (root : Path) (files : FileTree) :
    Disciplined [.start (some root)] (started session root files) := by
  have hsession : ∀ e ∈ startUp root, e.ofSession := by
    simp [startUp, Event.ofSession, Event.request?, Request.ofSession]
  exact (disciplined_opened h.mode files).run hsession

theorem single_started (h : session.Fresh) (root : Path) (files : FileTree) :
    Single [.start (some root)] (started session root files) := by
  have hsession : ∀ e ∈ startUp root, e.ofSession := by
    simp [startUp, Event.ofSession, Event.request?, Request.ofSession]
  refine (single_opened session files).run (disciplined_opened h.mode files) hsession ?_
  exact orderly_of_one_start h (by simp [Request.ofLife]) (by simp [Request.starts])
    (by simp) (List.Subperm.refl [Request.start (some root)])

/-- What is under way was asked for after the start. -/
theorem mem_of_underWay_started (h : session.Fresh) {other : Request}
    (hother : ((started session root files).run events).UnderWay
      ([.start (some root)] ++ requests events) other) : other ∈ requests events := by
  obtain ⟨t, task, hother, htask, hwaits⟩ := hother
  cases t with
  | zero =>
      -- The start that came first has finished.
      have hfinished := State.run_finished (t := 0) (r := .ok .nothing)
        (s := started session root files) (by simp [started_eq h.mode]) events
      rw [hfinished, Option.some.injEq] at htask
      rw [← htask] at hwaits
      cases hwaits
  | succ t => exact List.mem_of_getElem? hother

/-- Without starts, and without restarts or without closes, nothing gets in the way. -/
theorem orderly_of_no_start (h : session.Fresh) (hasked : ∀ request ∈ asked, request.ofLife)
    (hstarts : ∀ request ∈ asked, request.starts = false)
    (hapart : Request.restart ∉ asked ∨ Request.close ∉ asked)
    (hevents : (requests events).Subperm asked) :
    Orderly [.start (some root)] (started session root files) events := by
  induction events using List.reverseRecOn with
  | nil => trivial
  | append_singleton events e ih =>
      rw [requests_append] at hevents
      have hbefore : (requests events).Subperm asked :=
        (List.sublist_append_left _ _).subperm.trans hevents
      rw [orderly_concat]
      refine ⟨ih hbefore, fun request hrequest => ?_⟩
      have hmem : request ∈ asked := by
        refine hevents.subset (List.mem_append_right _ ?_)
        simp [requests, hrequest]
      refine ⟨(Request.ofSession_of_ofLife (hasked request hmem)).2, .inr ⟨?_, ?_⟩⟩
      · intro other hother
        have hother := hbefore.subset (mem_of_underWay_started h hother)
        rw [← Bool.not_eq_true]
        intro hclash
        rcases Request.clashes_cases hclash with ⟨rfl, rfl⟩ | ⟨rfl, rfl⟩ | ⟨_, rfl⟩ | ⟨_, rfl⟩
        · exact hapart.elim (absurd hmem) (absurd hother)
        · exact hapart.elim (absurd hother) (absurd hmem)
        · cases hstarts _ hmem
        · cases hstarts _ hother
      · rintro root' rfl
        cases hstarts _ hmem

end Started

/-! ### Requests that get in each other's way -/

section Clashes

variable {session : Session} (h : session.Fresh) (files : FileTree) (root root' : Path)
include h

theorem outlined_opened : Outlined (State.opened session files) {} :=
  ⟨⟨session, rfl, h.mode, h.root, h.compiler, h.lock⟩, rfl, rfl, rfl, rfl, rfl⟩

/-- A session that was started has one compiler, which is read from. -/
theorem outlined_started :
    Outlined (started session root files)
      { root := some root
        handle := some 0
        compilers := [some 0]
        processes := [(true, .reading, .reading)]
        tasks := [.finished (.ok .nothing)] } :=
  ((outlined_opened h files).start root).launched_start rfl rfl

/-- Both starts launch a compiler before the session has taken one. -/
def twoStarts (root root' : Path) : List Event :=
  [.call (.start (some root)), .call (.start (some root')), .launched 0 (.ok ()),
    .launched 1 (.ok ())]

theorem alive_twoStarts :
    let s := (State.opened session files).run (twoStarts root root')
    s.isAlive 0 ∧ s.isAlive 1 := by
  have hlaunching := ((outlined_opened h files).start root).start root'
  have hlaunched := (hlaunching.launched_start (t := 0) rfl rfl).launched_start (t := 1) rfl rfl
  simp only [twoStarts, State.run, List.foldl]
  exact ⟨hlaunched.isAlive_eq rfl, hlaunched.isAlive_eq rfl⟩

/-- The restart finds no compiler to stop, because the session has not taken the one that is being
launched. -/
def startAndRestart (root : Path) : List Event :=
  [.call (.start (some root)), .call .restart, .launched 0 (.ok ()), .launched 1 (.ok ())]

theorem alive_startAndRestart :
    let s := (State.opened session files).run (startAndRestart root)
    s.isAlive 0 ∧ s.isAlive 1 := by
  have hstarting := (outlined_opened h files).start root
  have hrestarting := hstarting.restart_vacant rfl rfl rfl
  have hstarted := hrestarting.launched_start (t := 0) rfl rfl
  have hrestarted := hstarted.launched_restart (t := 1) rfl rfl
  simp only [startAndRestart, State.run, List.foldl]
  exact ⟨hrestarted.isAlive_eq rfl, hrestarted.isAlive_eq rfl⟩

/-- A start does not ask whether there is a compiler. -/
def startAgain (root : Path) : List Event := [.call (.start (some root)), .launched 1 (.ok ())]

theorem alive_startAgain :
    let s := (started session root files).run (startAgain root')
    s.isAlive 0 ∧ s.isAlive 1 := by
  have hstarting := (outlined_started h files root).start root'
  have hstarted := hstarting.launched_start (t := 1) rfl rfl
  simp only [startAgain, State.run, List.foldl]
  exact ⟨hstarted.isAlive_eq rfl, hstarted.isAlive_eq rfl⟩

/-- The close lets go of the compiler that the restart has launched in the meantime. -/
def closeAndRestart : List Event :=
  [.call .close, .call .restart, .exit 0 0, .exitSeen 2, .proceed 2, .launched 2 (.ok ()),
    .exitSeen 1]

theorem lost_closeAndRestart :
    let s := (started session root files).run closeAndRestart
    (∀ task ∈ s.tasks, task.isFinished) ∧ s.isAlive 1 ∧ s.handle = none := by
  have hclosing := (outlined_started h files root).close rfl rfl rfl
  have hrestarting := hclosing.restart rfl rfl rfl rfl
  have hexited := hrestarting.exit (p := 0) rfl 0
  have hreaping := hexited.exitSeen_reading (t := 2) rfl rfl rfl
  have hlaunching := hreaping.proceed_restart (t := 2) rfl rfl rfl
  have hrestarted := hlaunching.launched_restart (t := 2) rfl rfl
  have hclosed := hrestarted.exitSeen_close (t := 1) rfl rfl rfl
  simp only [closeAndRestart, State.run, List.foldl]
  exact ⟨hclosed.finished rfl, hclosed.isAlive_eq rfl, hclosed.handle_eq⟩

end Clashes

/-! ### All interleavings -/

/-- There is always at most one compiler, in every interleaving of the tasks of some of the requests
with all that processes do. -/
def State.AlwaysOne (s : State) (asked : List Request) : Prop :=
  ∀ events, (requests events).Subperm asked → (s.run events).OneCompiler

section Exact

variable {session : Session} {asked : List Request}

theorem pair_subperm {a b : Request} (ha : a ∈ asked) (hb : b ∈ asked) (hne : a ≠ b) :
    [a, b].Subperm asked :=
  List.subperm_of_subset (by simpa using hne) (by simp [ha, hb])

theorem Request.eq_start {request : Request} (h : request.starts) :
    ∃ root, request = .start (some root) := by
  unfold starts at h
  split at h
  · exact ⟨_, rfl⟩
  · cases h

/-- Of more than one start there are two. -/
theorem starts_subperm (h : 1 < asked.countP (·.starts)) :
    ∃ root root', [.start (some root), .start (some root')].Subperm asked := by
  have hfilter : (asked.filter (·.starts)).Sublist asked := List.filter_sublist
  have hmem : ∀ request ∈ asked.filter (·.starts), request.starts :=
    fun request hrequest => (List.mem_filter.mp hrequest).2
  rw [List.countP_eq_length_filter] at h
  rcases hstarts : asked.filter (·.starts) with _ | ⟨a, _ | ⟨b, rest⟩⟩
  · simp [hstarts] at h
  · simp [hstarts] at h
  · rw [hstarts] at hfilter hmem
    obtain ⟨root, rfl⟩ := Request.eq_start (hmem a (by simp))
    obtain ⟨root', rfl⟩ := Request.eq_start (hmem b (by simp))
    have hpair : [Request.start (some root), .start (some root')].Sublist
        (.start (some root) :: .start (some root') :: rest) := by simp
    exact ⟨root, root', (hpair.trans hfilter).subperm⟩

/-- Two processes that are alive are too many. -/
theorem not_alwaysOne {s : State} (events : List Event) (hevents : (requests events).Subperm asked)
    (halive : (s.run events).isAlive 0 ∧ (s.run events).isAlive 1) : ¬s.AlwaysOne asked :=
  fun hone => Nat.zero_ne_one ((hone events hevents).1 0 1 halive.1 halive.2)

theorem alwaysOne_opened_iff (h : session.Fresh) (files : FileTree)
    (hasked : ∀ request ∈ asked, request.ofLife) :
    (State.opened session files).AlwaysOne asked ↔
      asked.countP (·.starts) = 0 ∨ asked.countP (·.starts) = 1 ∧ .restart ∉ asked := by
  constructor
  · intro hone
    have hfew : asked.countP (·.starts) ≤ 1 := by
      refine Nat.le_of_not_lt fun hmany => ?_
      obtain ⟨root, root', hpair⟩ := starts_subperm hmany
      exact not_alwaysOne (twoStarts root root') hpair
        (alive_twoStarts h files root root') hone
    rcases Nat.le_one_iff_eq_zero_or_eq_one.mp hfew with hzero | hcount
    · exact .inl hzero
    · refine .inr ⟨hcount, fun hrestart => ?_⟩
      obtain ⟨request, hmem, hstarts⟩ := List.countP_pos_iff.mp (hcount ▸ Nat.one_pos)
      obtain ⟨root, rfl⟩ := Request.eq_start hstarts
      exact not_alwaysOne (startAndRestart root) (pair_subperm hmem hrestart nofun)
        (alive_startAndRestart h files root) hone
  · rintro (hzero | ⟨hcount, hrestart⟩) events hevents
    · have hsession := Event.ofSession_of_subperm hasked hevents
      have hrootless := (rootless_opened h files).run (disciplined_opened h.mode files) hsession
        fun request hrequest => by
          have hnone := List.countP_eq_zero.mp hzero request (hevents.subset (by simpa using hrequest))
          simpa using hnone
      have hnone (p : ProcessId) : ((State.opened session files).run events).isAlive p = false := by
        simp [State.isAlive, hrootless.processes]
      exact ⟨fun p _ hp => by simp [hnone] at hp, fun _ p hp => by simp [hnone] at hp⟩
    · have hsession := Event.ofSession_of_subperm hasked hevents
      exact ((single_opened session files).run (disciplined_opened h.mode files) hsession
        (orderly_of_one_start h hasked (Nat.le_of_eq hcount) hrestart hevents)).oneCompiler

theorem alwaysOne_started_iff (h : session.Fresh) (root : Path) (files : FileTree)
    (hasked : ∀ request ∈ asked, request.ofLife) :
    (started session root files).AlwaysOne asked ↔
      (∀ request ∈ asked, request.starts = false) ∧ (.restart ∉ asked ∨ .close ∉ asked) := by
  constructor
  · intro hone
    refine ⟨fun request hmem => ?_, ?_⟩
    · rw [Bool.eq_false_iff]
      intro hstarts
      obtain ⟨root', rfl⟩ := Request.eq_start hstarts
      exact not_alwaysOne (startAgain root') (List.singleton_subperm_iff.mpr hmem)
        (alive_startAgain h files root root') hone
    · by_contra hboth
      rw [not_or, not_not, not_not] at hboth
      obtain ⟨hfinished, halive, hlost⟩ := lost_closeAndRestart h files root
      have hevents : (requests closeAndRestart).Subperm asked :=
        pair_subperm hboth.2 hboth.1 nofun
      obtain ⟨i, hi, _⟩ := (hone closeAndRestart hevents).2 hfinished 1 halive
      rw [hlost] at hi
      cases hi
  · rintro ⟨hstarts, hapart⟩ events hevents
    have hsession := Event.ofSession_of_subperm hasked hevents
    exact ((single_started h root files).run (disciplined_started h root files) hsession
      (orderly_of_no_start h hasked hstarts hapart hevents)).oneCompiler

theorem Orderly.oneCompiler (h : session.Fresh) {files : FileTree} {events : List Event}
    (hevents : ∀ e ∈ events, e.ofSession)
    (horderly : Orderly [] (State.opened session files) events) :
    ((State.opened session files).run events).OneCompiler :=
  ((single_opened session files).run (disciplined_opened h.mode files) hevents horderly).oneCompiler

/-- In every interleaving of some requests a new session has at most one compiler, and knows it in
the end, exactly if there is no start, or one start and no restart; a session that was started, if
there is no start, and no restart or no close. Whatever is asked for, it is so as long as no request
gets in the way of one that is under way. -/
theorem one_compiler_iff_requests (h : session.Fresh) (root : Path) (files : FileTree)
    (hasked : ∀ request ∈ asked, request.ofLife) :
    ((State.opened session files).AlwaysOne asked ↔
      asked.countP (·.starts) = 0 ∨ asked.countP (·.starts) = 1 ∧ .restart ∉ asked) ∧
    ((started session root files).AlwaysOne asked ↔
      (∀ request ∈ asked, request.starts = false) ∧ (.restart ∉ asked ∨ .close ∉ asked)) ∧
    ∀ events : List Event, (∀ e ∈ events, e.ofSession) →
      Orderly [] (State.opened session files) events →
      ((State.opened session files).run events).OneCompiler :=
  ⟨alwaysOne_opened_iff h files hasked, alwaysOne_started_iff h root files hasked,
    fun _ hevents horderly => horderly.oneCompiler h hevents⟩

end Exact

theorem savedSession_fresh : savedSession.Fresh := ⟨rfl, rfl, rfl, rfl⟩

/-- One start with a save and a close is safe for a new session, but not for one that was started. -/
theorem one_compiler_of_savedSession :
    let root := Path.ofString "/ws"
    let requests : List Request := [.start (some root), .save "file:///ws/a.dps", .close]
    savedSession.Fresh ∧ (∀ request ∈ requests, request.ofLife) ∧
    (State.opened savedSession {}).AlwaysOne requests ∧
    ¬(started savedSession root {}).AlwaysOne requests := by
  have hasked : ∀ request ∈ [Request.start (some (Path.ofString "/ws")),
      .save "file:///ws/a.dps", .close], request.ofLife := by simp [Request.ofLife]
  obtain ⟨hopened, hstarted, _⟩ :=
    one_compiler_iff_requests savedSession_fresh (Path.ofString "/ws") {} hasked
  refine ⟨savedSession_fresh, hasked, hopened.mpr (.inr ⟨rfl, by simp⟩), fun hone => ?_⟩
  simpa [Request.starts] using (hstarted.mp hone).1

/-- A restart that comes while the session is being started leaves two compilers. -/
theorem startAndRestart_two_compilers :
    let s := (State.opened savedSession {}).run (startAndRestart (Path.ofString "/ws"))
    (∀ task ∈ s.tasks, task.isFinished) ∧ s.isAlive 0 ∧ s.isAlive 1 ∧ s.processOf? 1 = some 1 ∧
    s.handle = some 1 ∧ ¬s.OneCompiler := by
  have halive := alive_startAndRestart savedSession_fresh {} (Path.ofString "/ws")
  refine ⟨by decide +kernel, halive.1, halive.2, by decide +kernel, by decide +kernel, fun hone => ?_⟩
  exact Nat.zero_ne_one (hone.1 0 1 halive.1 halive.2)

end Datapack.Machine
