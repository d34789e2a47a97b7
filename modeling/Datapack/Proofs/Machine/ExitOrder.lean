import Datapack.Proofs.Machine.Handovers
import Datapack.Proofs.Machine.LateLines
import Datapack.Proofs.Machine.ResidentSteps
import Datapack.Proofs.Machine.Silence

/-! The order of lines and exits. A supervisor hands lines over in the order in which they were
written, and then perhaps the exit; after that, or after a stop, it hands nothing over. So a session
streams nothing from the exit of its only compiler on. -/

namespace Datapack.Machine

open Diagnostic

/-! ### One supervisor -/

namespace Tends

variable {c : Supervisor} {earlier s : State} {acting : Option TaskId} {asked : List Request}
  {written : Text.Bytes} {sup : Supervisor} {q : Process}

section

variable (h : Tends c earlier acting asked written s sup q)

include h

theorem drained_iff : s.Drained ↔ q.Drained := by simp [State.Drained, h.processes]

theorem muted_iff : s.Muted ↔ sup.stopping ∨ q.watched = false := by
  simp [State.Muted, h.supervisors, h.processes]

theorem drained_of_exit (hexit : s.exits ≠ []) : s.Drained := by
  rw [h.drained_iff]
  rcases h.reported with hnone | ⟨_, _, hreader⟩
  · exact absurd hnone hexit
  · rcases hreader with hreader | hreader <;> simp [Process.Drained, hreader]

theorem all_read_of_exit (hexit : s.exits ≠ []) :
    q.stderr.pipe.buffer = [] ∨ q.stderr.pipe.broken := by
  rcases h.reported with hnone | ⟨_, _, hreader⟩
  · exact absurd hnone hexit
  · exact hreader.imp (fun hfinished => (h.reads.finished hfinished).1) h.reads.failed

theorem length_exits : s.exits.length ≤ 1 := by
  rcases h.reported with hnone | ⟨⟨code, hone⟩, _⟩
  · simp [hnone]
  · simp [hone]

end

/-- When a stop has ended, nothing more is read. -/
theorem drained_of_stop (h : Tends c earlier none asked written s sup q) {t : TaskId}
    {r : Except Fault Answer} (hrequest : asked[t]? = some (.supervisorStop 0))
    (htask : s.tasks[t]? = some (.finished r)) : s.Drained := by
  rw [h.drained_iff]
  cases h.errands hrequest htask nofun with
  | finished _ hover => exact (hover rfl).1

/-- When a stop has begun, no exit is handed over. -/
theorem muted_of_stop (h : Tends c earlier none asked written s sup q) {t : TaskId}
    (hrequest : asked[t]? = some (.supervisorStop 0)) : s.Muted := by
  rw [h.muted_iff]
  have ht : t < s.tasks.length := h.asks ▸ (List.getElem?_eq_some_iff.mp hrequest).1
  have herrand := h.errands hrequest (List.getElem?_eq_getElem ht) nofun
  generalize s.tasks[t] = task at herrand
  cases herrand with
  | finished _ hover => exact (hover rfl).2
  | exiting _ hstopping => exact .inl hstopping
  | reaping _ hstopping => exact .inl hstopping

/-- When a process was killed that ran, its exit is not handed over. -/
theorem muted_killSupervised (h : Tends c earlier acting asked written s sup q)
    (halive : s.isAlive 0) : (s.killSupervised 0).Muted := by
  unfold State.killSupervised
  rcases h.process with hprocess | ⟨hnone, hover⟩
  · have hkills : s.aliveProcess? 0 = some 0 := by
      simp [State.aliveProcess?, h.supervisors, hprocess, halive]
    have hhalted := h.modifySupervisor (f := fun q => { q with stopping := true }) rfl rfl
      (fun _ => rfl) (.inl rfl) (.inl rfl)
    rw [hkills]
    exact (hhalted.emit rfl).muted_iff.mpr (.inl rfl)
  · have hkills : s.aliveProcess? 0 = none := by
      simp [State.aliveProcess?, h.supervisors, hnone]
    rw [hkills]
    exact h.muted_iff.mpr hover.2

theorem muted_kill (h : Tends c earlier none asked written s sup q) (halive : s.isAlive 0) :
    (s.step (.call (.supervisorKill 0))).Muted :=
  (h.addTask rfl (.supervisorKill 0) (.finished (.ok .nothing))).muted_killSupervised halive

/-- When a stop was asked for, the exit is not handed over. -/
theorem muted_stop (h : Tends c earlier none asked written s sup q) :
    (s.step (.call (.supervisorStop 0))).Muted := by
  have hcompiler : (Request.supervisorStop 0).ofCompiler := rfl
  obtain ⟨sup', q', hstop⟩ := h.call hcompiler
  exact hstop.muted_of_stop (t := s.tasks.length) (by simp [h.asks])

end Tends

/-- Whether a stop that was asked for has ended. -/
def State.StopEnded (s : State) (asked : List Request) : Prop :=
  ∃ t : TaskId, ∃ r, asked[t]? = some (.supervisorStop 0) ∧ s.tasks[t]? = some (.finished r)

section

variable {c : Supervisor} {earlier s : State} {asked : List Request} {written : Text.Bytes}
  {takes : Recorder} {tellsExit : Bool} {events : List Event}

/-- Nothing is handed over after the exit, or after a stop. -/
theorem Tended.handed_run (h : Tended c earlier asked written s)
    (hsink : c.sink = .recorder takes tellsExit) (hevents : ∀ e ∈ events, e.ofCompiler)
    (hover : s.exits ≠ [] ∨ s.StopEnded asked) : (s.run events).handed = s.handed := by
  have hdrained : s.Drained := by
    obtain ⟨sup, q, ht⟩ := h
    rcases hover with hexit | ⟨t, r, hrequest, htask⟩
    · exact ht.drained_of_exit hexit
    · exact ht.drained_of_stop hrequest htask
  obtain ⟨sup, q, hlater⟩ := h.now.run hsink hevents
  exact (hlater.quiet hdrained).2

/-- A stop, or a kill while the process runs, keeps the exit from being handed over. -/
theorem Tended.exits_run_call (h : Tended c earlier asked written s)
    (hsink : c.sink = .recorder takes tellsExit) {request : Request}
    (hrequest : request = .supervisorStop 0 ∨ request = .supervisorKill 0 ∧ s.isAlive 0)
    (hnone : s.exits = []) (hevents : ∀ e ∈ events, e.ofCompiler) :
    (s.run (.call request :: events)).exits = [] := by
  obtain ⟨sup, q, ht⟩ := h
  have hcalled : (Event.call request).ofCompiler ∧ (s.step (.call request)).Muted := by
    rcases hrequest with rfl | ⟨rfl, halive⟩
    · exact ⟨rfl, ht.muted_stop⟩
    · exact ⟨rfl, ht.muted_kill halive⟩
  obtain ⟨hcompiler, hmuted⟩ := hcalled
  obtain ⟨sup', q', hlater⟩ := (ht.step hsink hcompiler).now.run hsink hevents
  calc (s.run (.call request :: events)).exits
    _ = (s.step (.call request)).exits := (hlater.mute hmuted).2
    _ = s.exits := (s.call_alters request).exits_eq
    _ = [] := hnone

end

/-! ### A session -/

/-- Where the watch of a process will hand its exit over, if it does so now. -/
def State.exitSink? (s : State) (p : ProcessId) : Option Sink := do
  let q ← s.processes[p]?
  let _ ← q.code
  let sup ← q.owner.bind (s.supervisors[·]?)
  if q.watched && State.readersEnded q && !sup.stopping then some sup.sink else none

theorem State.exitDue_of_exitSink? {s : State} {p : ProcessId} {sink : Sink}
    (h : s.exitSink? p = some sink) :
    ∃ q code i sup, s.ExitDue p q code i sup ∧ sup.stopping = false ∧ sup.sink = sink := by
  simp only [State.exitSink?, Option.bind_eq_bind, Option.bind_eq_some_iff,
    Option.ite_none_right_eq_some, Bool.and_eq_true, Bool.not_eq_true'] at h
  obtain ⟨q, hq, code, hcode, sup, ⟨i, howner, hsup⟩, ⟨⟨hwatched, hended⟩, hgoes⟩, hsink⟩ := h
  exact ⟨q, code, i, sup, ⟨hq, hcode, howner, hsup, hwatched, hended⟩, hgoes,
    Option.some.inj hsink⟩

/-- The session that a supervisor reports to. -/
def Sink.generation? : Sink → Option Nat
  | .session generation => some generation
  | .recorder _ _ => none

theorem State.exitSink?_eq {s : State} {p : ProcessId} {generation : Nat}
    (h : (s.exitSink? p).bind Sink.generation? = some generation) :
    s.exitSink? p = some (.session generation) := by
  obtain ⟨sink, hsink, hgeneration⟩ := Option.bind_eq_some_iff.mp h
  cases sink with
  | session generation' =>
      cases hgeneration
      exact hsink
  | recorder takes tellsExit => cases hgeneration

/-- A session that takes an exit drops what was streamed. -/
theorem State.silent_handExit {s : State}
    (hdrained : ∀ q ∈ s.processes, q.owner.isSome → q.stderr.reader ≠ .reading) (code : Int) :
    (s.handExit (.session s.generation) code).Silent := by
  rw [s.handExit_session code]
  refine ⟨hdrained, ?_⟩
  intro session hsession
  obtain ⟨_, _, rfl⟩ := Option.map_eq_some_iff.mp hsession
  rfl

/-- When the only compiler of a session has handed its exit over, the session is silent. -/
theorem State.silent_noticeExit {s : State} {p : ProcessId}
    (hexit : s.exitSink? p = some (.session s.generation))
    (honly : ∀ n q, s.processes[n]? = some q → q.owner.isSome → n = p) :
    (s.noticeExit p).Silent := by
  obtain ⟨q, code, i, sup, hdue, hgoes, hsink⟩ := State.exitDue_of_exitSink? hexit
  rw [State.noticeExit_eq hdue, hgoes, hsink, if_neg Bool.false_ne_true, State.emitAll_eq]
  refine State.silent_handExit ?_ code
  intro q' hq' howner'
  obtain ⟨n, hn, rfl⟩ := List.mem_iff_getElem.mp hq'
  simp only [State.forget, State.modifySupervisor, State.emit, State.unwatch, State.modifyProcess,
    List.length_modify] at hn
  simp only [State.forget, State.modifySupervisor, State.emit, State.unwatch, State.modifyProcess,
    List.getElem_modify] at howner' ⊢
  have hnth : s.processes[n]? = some s.processes[n] := List.getElem?_eq_getElem hn
  split at howner'
  · next hp =>
      subst hp
      have hq := hdue.process
      rw [hnth] at hq
      cases hq
      simpa using hdue.drained
  · next hp => exact absurd (honly n _ hnth howner').symm hp

/-! ### Order -/

/-- A supervisor that was started once, from when the start has returned: it reads the error output in
pieces, as it was written, and hands over each line among them once and in order, also if the
recipient fails. It hands over at most one exit, when all output was read, and none after a stop has
begun or its running process was killed. After the exit, or a stop that has ended, it hands over no
line. From the exit of its only compiler on a session streams nothing, until another one is created. -/
theorem lines_in_order_then_exit (settings : Settings) (root : Path) (limit : Nat)
    (takes : Recorder) (tellsExit : Bool) :
    let start := State.attended (recorder settings root limit takes tellsExit)
    (∀ events : List Event, (∀ e ∈ events, e.ofCompiler) →
      let s := start.run events
      (∃ q pieces last, s.processes = [q] ∧
        Readings limit (errorOutput start events) s.handed q.stderr.pipe pieces last ∧
        (s.exits ≠ [] → q.stderr.pipe.buffer = [] ∨ q.stderr.pipe.broken)) ∧
      s.exits.length ≤ 1 ∧
      (∀ before after, events = before ++ after →
        (start.run before).exits ≠ [] ∨
          (start.run before).StopEnded (.supervisorStart 0 :: requests before) →
        s.handed = (start.run before).handed) ∧
      (∀ before request after, events = before ++ .call request :: after →
        request = .supervisorStop 0 ∨
          request = .supervisorKill 0 ∧ (start.run before).isAlive 0 →
        (start.run before).exits = [] → s.exits = [])) ∧
    ∀ (s : State) (p : ProcessId) (events : List Event),
      s.exitSink? p = some (.session s.generation) →
      (∀ n q, s.processes[n]? = some q → q.owner.isSome → n = p) →
      (∀ before e after, events = before ++ e :: after →
        ¬e.Spawns ((s.step (.notice p)).run before)) →
      ∀ session, (s.run (.notice p :: events)).session = some session →
        session.ledger.stream = [] := by
  intro start
  have hstart : Tended (recorder settings root limit takes tellsExit) start
      [.supervisorStart 0] [] start := tended_attended settings root limit takes tellsExit
  have hrun {events : List Event} (hevents : ∀ e ∈ events, e.ofCompiler) :=
    hstart.run rfl hevents
  refine ⟨fun events hevents => ?_, fun s p events hexit honly hspawns => ?_⟩
  · refine ⟨?_, ?_, ?_, ?_⟩
    · obtain ⟨sup, q, ht⟩ := hrun hevents
      obtain ⟨pieces, last, hreads⟩ := ht.reads.readings
      exact ⟨q, pieces, last, ht.processes, hreads, ht.all_read_of_exit⟩
    · obtain ⟨sup, q, ht⟩ := hrun hevents
      exact ht.length_exits
    · rintro before after rfl hover
      rw [List.forall_mem_append] at hevents
      rw [State.run, List.foldl_append]
      exact (hrun hevents.1).handed_run rfl hevents.2 hover
    · rintro before request after rfl hrequest hnone
      rw [List.forall_mem_append, List.forall_mem_cons] at hevents
      rw [State.run, List.foldl_append]
      exact (hrun hevents.1).exits_run_call rfl hrequest hnone hevents.2.2
  · exact (State.Silent.run (State.silent_noticeExit hexit honly) hspawns).stream

/-- Fails at one line, but only if it is not the first one that comes. -/
def secondRefused : Recorder := fun seen line =>
  if line = "second\n" ∧ .line "first\n" ∈ seen then .error .callbackFailed else .ok ()

/-- Lines, at the second of which the recipient fails, and the exit before the last one is read. -/
def lastWords : List Event :=
  [.output 0 .stderr (Text.encodeUtf8 "first\nsecond\nrest"), .read 0 .stderr, .read 0 .stderr,
   .exit 0 3, .read 0 .stderr, .read 0 .stderr, .read 0 .stdout, .notice 0]

/-- What comes too late to be handed over. -/
def afterwards : List Event :=
  [.output 0 .stderr (Text.encodeUtf8 "late\n"), .call (.supervisorStop 0), .read 0 .stderr, .notice 0]

/-- A session's compiler has told of an error and exited, and its output was read. -/
def exitedState : State :=
  (started savedSession (Path.ofString "/ws") {}).run
    [.output 0 .stderr (Text.encodeUtf8 "error:/ws/a.dps|1-0|first\n"), .read 0 .stderr, .exit 0 1,
     .read 0 .stderr, .read 0 .stdout]

theorem lastWords_in_order :
    let start := State.attended (recorder .default (Path.ofString "/ws") 100 secondRefused true)
    (∀ e ∈ lastWords ++ afterwards, e.ofCompiler) ∧
    (start.run lastWords).handed = ["first\n", "second\n", "rest"] ∧
    (start.run lastWords).exits = [3] ∧
    (start.run (lastWords ++ afterwards)).handed = (start.run lastWords).handed ∧
    (start.run (.call (.supervisorKill 0) :: lastWords)).exits = [] ∧
    (exitedState.session.map fun session => session.ledger.stream.length) = some 1 ∧
    ∀ session, (exitedState.run [.notice 0, .call .compile]).session = some session →
      session.ledger.stream = [] := by
  intro start
  have hcompiler : ∀ e ∈ lastWords ++ afterwards, e.ofCompiler := by decide +kernel
  have hkills : ∀ e ∈ .call (.supervisorKill 0) :: lastWords, e.ofCompiler := by decide +kernel
  have hexits : (start.run lastWords).exits = [3] := by decide +kernel
  have hsome : (start.run lastWords).exits ≠ [] := by
    rw [hexits]
    exact nofun
  obtain ⟨hsupervisor, hsession⟩ :=
    lines_in_order_then_exit .default (Path.ofString "/ws") 100 secondRefused true
  refine ⟨hcompiler, by decide +kernel, hexits, ?_, ?_, by decide +kernel, ?_⟩
  · exact (hsupervisor _ hcompiler).2.2.1 lastWords afterwards rfl (.inl hsome)
  · exact (hsupervisor _ hkills).2.2.2 [] _ lastWords rfl (.inr ⟨rfl, rfl⟩) rfl
  · refine hsession exitedState 0 [.call .compile] (State.exitSink?_eq (by decide +kernel)) ?_ ?_
    · intro n q hq _
      have hone : exitedState.processes.length = 1 := by decide +kernel
      exact Nat.lt_one_iff.mp (hone ▸ (List.getElem?_eq_some_iff.mp hq).1)
    · rintro before e after hsplit ⟨t, i, stage, rfl, _⟩
      have hmem : .launched t (.ok ()) ∈ [Event.call .compile] := by simp [hsplit]
      simp at hmem

/-! ### Requests that come too early -/

/-- A stop or a kill that comes while the first process is being created has nothing to act on. It is
over at once, and what goes on beside the tasks is as if it had not been asked for: the lines are
handed over, and so is the exit, though a stop has ended. -/
theorem early_request_is_lost (settings : Settings) (root : Path) (limit : Nat) (takes : Recorder)
    (tellsExit : Bool) {request : Request}
    (hrequest : request = .supervisorStop 0 ∨ request = .supervisorKill 0) :
    let c := recorder settings root limit takes tellsExit
    let asked := State.run { supervisors := [c] } [.call (.supervisorStart 0), .call request]
    asked.tasks[1]? = some (.finished (.ok .nothing)) ∧
    ∀ events : List Event, (∀ e ∈ events, e.isBeside) →
      (asked.run (.launched 0 (.ok ()) :: events)).handed = ((State.attended c).run events).handed ∧
      (asked.run (.launched 0 (.ok ()) :: events)).exits = ((State.attended c).run events).exits := by
  intro c asked
  have hlaunched : asked.step (.launched 0 (.ok ())) =
      (State.attended c).withTasks [.finished (.ok .nothing), .finished (.ok .nothing)] := by
    rcases hrequest with rfl | rfl <;> rfl
  refine ⟨by rcases hrequest with rfl | rfl <;> rfl, fun events hevents => ?_⟩
  have hrun : asked.run (.launched 0 (.ok ()) :: events) =
      ((State.attended c).run events).withTasks
        [.finished (.ok .nothing), .finished (.ok .nothing)] := by
    rw [← State.run_withTasks _ _ hevents, ← hlaunched]
    rfl
  rw [hrun]
  exact ⟨rfl, rfl⟩

end Datapack.Machine
