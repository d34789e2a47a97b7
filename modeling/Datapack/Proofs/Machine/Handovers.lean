import Datapack.Proofs.Machine.Readings
import Datapack.Proofs.Machine.Residents

/-! One supervisor and the process it was started for, while it is sent commands, stopped and killed
in any order. Lines are handed over as they were written; the exit is handed over at most once, after
all lines, and not at all if the supervisor was to stop before. -/

namespace Datapack

namespace Machine

open Text

/-! ### What is handed over -/

/-- The lines that are handed over, in order. -/
def handedLines (es : List Effect) : List String :=
  es.filterMap fun
    | .line text => some text
    | _ => none

/-- The exits that are handed over, in order. -/
def handedExits (es : List Effect) : List Int :=
  es.filterMap fun
    | .exit code => some code
    | _ => none

theorem handedLines_eq_nil {es : List Effect} (h : ∀ e ∈ es, e.hands = false) :
    handedLines es = [] := by
  rw [handedLines, List.filterMap_eq_nil_iff]
  intro e he
  have hnot := h e he
  cases e <;> simp_all [Effect.hands]

theorem handedExits_eq_nil {es : List Effect} (h : ∀ e ∈ es, e.hands = false) :
    handedExits es = [] := by
  rw [handedExits, List.filterMap_eq_nil_iff]
  intro e he
  have hnot := h e he
  cases e <;> simp_all [Effect.hands]

namespace State

/-- The lines that were handed over so far. -/
def handed (s : State) : List String := handedLines s.trace.toList

/-- The exits that were handed over so far. -/
def exits (s : State) : List Int := handedExits s.trace.toList

theorem handed_emitAll (s : State) (es : List Effect) :
    (s.emitAll es).handed = s.handed ++ handedLines es := by
  simp [handed, handedLines, emitAll_eq]

theorem exits_emitAll (s : State) (es : List Effect) :
    (s.emitAll es).exits = s.exits ++ handedExits es := by
  simp [exits, handedExits, emitAll_eq]

theorem handed_emitAll_of_not_hands (s : State) (es : List Effect)
    (hes : ∀ e ∈ es, e.hands = false) : (s.emitAll es).handed = s.handed := by
  rw [handed_emitAll, handedLines_eq_nil hes, List.append_nil]

theorem exits_emitAll_of_not_hands (s : State) (es : List Effect)
    (hes : ∀ e ∈ es, e.hands = false) : (s.emitAll es).exits = s.exits := by
  rw [exits_emitAll, handedExits_eq_nil hes, List.append_nil]

theorem exits_emit (s : State) {e : Effect} (he : e.hands = false) : (s.emit e).exits = s.exits :=
  s.exits_emitAll_of_not_hands [e] (by simpa using he)

theorem exits_modifySupervisor (s : State) (i : SupervisorId) (f : Supervisor → Supervisor) :
    (s.modifySupervisor i f).exits = s.exits := rfl

end State

/-- What a task does hands no line over. -/
theorem Alters.handed_eq {t : TaskId} {s s' : State} (h : Alters t s s') :
    s'.handed = s.handed := by
  obtain ⟨es, htrace, hes⟩ := h.trace_eq
  calc s'.handed
    _ = (s.emitAll es).handed := by rw [State.handed, htrace, State.handed, State.emitAll_eq]
    _ = s.handed := s.handed_emitAll_of_not_hands es hes

/-- What a task does hands no exit over. -/
theorem Alters.exits_eq {t : TaskId} {s s' : State} (h : Alters t s s') :
    s'.exits = s.exits := by
  obtain ⟨es, htrace, hes⟩ := h.trace_eq
  calc s'.exits
    _ = (s.emitAll es).exits := by rw [State.exits, htrace, State.exits, State.emitAll_eq]
    _ = s.exits := s.exits_emitAll_of_not_hands es hes

/-- Nothing more will be read of the error output. -/
def Process.Drained (q : Process) : Prop := q.stderr.reader ≠ .reading

/-- Nothing more will be read of any error output. -/
def State.Drained (s : State) : Prop := ∀ q ∈ s.processes, q.Drained

/-- No exit will be handed over any more: the supervisor is stopping, or the process is not watched. -/
def State.Muted (s : State) : Prop :=
  ∀ sup ∈ s.supervisors, ∀ q ∈ s.processes, sup.stopping ∨ q.watched = false

/-- What an event writes to the error output of the process. -/
def Event.errorOutput (s : State) : Event → Bytes
  | .output 0 .stderr bytes => if s.isAlive 0 then bytes else []
  | _ => []

/-! ### Tasks -/

/-- What is asked of a supervisor that was started. -/
def Request.ofCompiler : Request → Bool
  | supervisorStop 0 | supervisorKill 0 | supervisorCommand 0 _ => true
  | _ => false

def Event.ofCompiler (e : Event) : Bool := e.request?.all (·.ofCompiler)

/-- Neither a line nor the exit will be handed over any more. -/
def Over (sup : Supervisor) (q : Process) : Prop := q.Drained ∧ (sup.stopping ∨ q.watched = false)

/-- What the task of a request may be doing. A stop that waits for the readers, or has ended, has
seen to it that nothing more is read. -/
inductive Errand (ended stopping : Prop) : Request → Task → Prop where
  | finished {request : Request} (r : Except Fault Answer)
      (stop : request = .supervisorStop 0 → ended) : Errand ended stopping request (.finished r)
  | exiting (killed : Bool) (stops : stopping) :
      Errand ended stopping (.supervisorStop 0) (.exiting 0 0 killed .direct)
  | reaping (ends : ended) (stops : stopping) :
      Errand ended stopping (.supervisorStop 0) (.reaping 0 0 .direct)
  | waiting (text : String) :
      Errand ended stopping (.supervisorCommand 0 text) (.writeTurn 0 text .direct)
  | flushing (text : String) :
      Errand ended stopping (.supervisorCommand 0 text) (.flushing 0 0 text .direct)

theorem Errand.imp {ended stopping ended' stopping' : Prop} {request : Request} {task : Task}
    (h : Errand ended stopping request task) (hover : ended → ended')
    (hstopping : stopping → stopping') : Errand ended' stopping' request task := by
  cases h with
  | finished r hstop => exact .finished r fun hr => hover (hstop hr)
  | exiting killed hs => exact .exiting killed (hstopping hs)
  | reaping ho hs => exact .reaping (hover ho) (hstopping hs)
  | waiting text => exact .waiting text
  | flushing text => exact .flushing text

/-- A supervisor `sup`, which was once `c`, and its process `q`, to which something was written. The
task that is acting just now does not count. The last two facts tell what happened since an earlier
state. -/
structure Tends (c : Supervisor) (earlier : State) (acting : Option TaskId) (asked : List Request)
    (written : Bytes) (s : State) (sup : Supervisor) (q : Process) : Prop where
  supervisors : s.supervisors = [sup]
  processes : s.processes = [q]
  limit : sup.limit = c.limit
  sink : sup.sink = c.sink
  owner : q.owner = some 0
  process : sup.process = some 0 ∨ sup.process = none ∧ Over sup q
  tended : sup.tended = some 0 ∨ sup.tended = none ∧ q.Drained
  asks : s.tasks.length = asked.length
  errands : ∀ {t : TaskId} {request task}, asked[t]? = some request → s.tasks[t]? = some task →
    acting ≠ some t → Errand (Over sup q) sup.stopping request task
  ends : q.stderr.pipe.ended = q.code.isSome
  watch : q.watched → q.stderr.reader ≠ .cancelled
  reads : q.stderr.Reads c.limit written s.handed
  reported : s.exits = [] ∨ (∃ code, s.exits = [code]) ∧ q.watched = false ∧
    (q.stderr.reader = .finished ∨ q.stderr.reader = .failed)
  quiet : earlier.Drained → q.Drained ∧ s.handed = earlier.handed
  mute : earlier.Muted → (sup.stopping ∨ q.watched = false) ∧ s.exits = earlier.exits

/-- The same when no task is acting, whatever the supervisor and the process are now. -/
def Tended (c : Supervisor) (earlier : State) (asked : List Request) (written : Bytes)
    (s : State) : Prop :=
  ∃ sup q, Tends c earlier none asked written s sup q

namespace Tends

variable {c : Supervisor} {earlier s : State} {acting : Option TaskId} {asked : List Request}
  {written : Bytes} {sup : Supervisor} {q : Process}

section

variable (h : Tends c earlier acting asked written s sup q)

include h

theorem isAlive_eq (p : ProcessId) : s.isAlive p = (decide (p = 0) && q.code.isNone) := by
  cases p <;> simp [State.isAlive, h.processes, Process.isAlive]

/-- What is alive is the one process. -/
theorem of_isAlive {p : ProcessId} (halive : s.isAlive p) : p = 0 ∧ q.code.isNone := by
  rwa [h.isAlive_eq, Bool.and_eq_true, decide_eq_true_eq] at halive

theorem now : Tends c s acting asked written s sup q := by
  refine { h with quiet := fun hd => ⟨hd q (by simp [h.processes]), rfl⟩, mute := ?_ }
  exact fun hm => ⟨hm sup (by simp [h.supervisors]) q (by simp [h.processes]), rfl⟩

/-! ### Changes -/

theorem emitAll (es : List Effect) (hes : ∀ e ∈ es, e.hands = false) :
    Tends c earlier acting asked written (s.emitAll es) sup q := by
  have hlines := s.handed_emitAll_of_not_hands es hes
  have hexits := s.exits_emitAll_of_not_hands es hes
  rw [State.emitAll_eq] at hlines hexits ⊢
  refine { h with reads := ?_, reported := ?_, quiet := ?_, mute := ?_ }
  · rw [hlines]; exact h.reads
  · rw [hexits]; exact h.reported
  · rw [hlines]; exact h.quiet
  · rw [hexits]; exact h.mute

theorem emit {e : Effect} (he : e.hands = false) :
    Tends c earlier acting asked written (s.emit e) sup q :=
  h.emitAll [e] (by simpa using he)

/-- The task that acts goes to where it waits, or ends. -/
theorem setTask {t : TaskId} (hacting : acting = none ∨ acting = some t) {request : Request}
    (hrequest : asked[t]? = some request) {task : Task}
    (htask : Errand (Over sup q) sup.stopping request task) :
    Tended c earlier asked written (s.setTask t task) := by
  refine ⟨sup, q, { h with asks := ?_, errands := ?_ }⟩
  · simpa [State.setTask] using h.asks
  · intro t' request' task' hrequest' htask' _
    simp only [State.setTask, List.getElem?_set] at htask'
    split at htask'
    · next heq =>
        subst heq
        split at htask'
        · cases htask'
          rw [hrequest] at hrequest'
          cases hrequest'
          exact htask
        · cases htask'
    · next hne =>
        refine h.errands hrequest' htask' ?_
        rcases hacting with rfl | rfl
        · simp
        · exact fun heq => hne (Option.some.inj heq)

theorem addTask (hacting : acting = none) (request : Request) (task : Task) :
    Tends c earlier (some s.tasks.length) (asked ++ [request]) written
      { s with tasks := s.tasks ++ [task] } sup q := by
  subst hacting
  refine { h with asks := by simp [h.asks], errands := ?_ }
  intro t request' task' hrequest' htask' hact
  rcases Nat.lt_trichotomy t s.tasks.length with ht | rfl | ht
  · rw [List.getElem?_append_left (h.asks ▸ ht)] at hrequest'
    rw [List.getElem?_append_left ht] at htask'
    exact h.errands hrequest' htask' nofun
  · exact absurd rfl hact
  · rw [List.getElem?_eq_none (by simpa using Nat.succ_le_of_lt ht)] at htask'
    cases htask'

/-- A supervisor may be stopped, let go of a process of which nothing more is read, and give its
write lock to somebody. -/
theorem modifySupervisor {f : Supervisor → Supervisor} (hlimit : (f sup).limit = sup.limit)
    (hsink : (f sup).sink = sup.sink) (hstopping : sup.stopping → (f sup).stopping)
    (hprocess : (f sup).process = sup.process ∨ (f sup).process = none ∧ Over (f sup) q)
    (htended : (f sup).tended = sup.tended ∨ (f sup).tended = none ∧ q.Drained) :
    Tends c earlier acting asked written (s.modifySupervisor 0 f) (f sup) q := by
  have hover : Over sup q → Over (f sup) q := fun ho => ⟨ho.1, ho.2.imp_left hstopping⟩
  refine { h with
    supervisors := by simp [State.modifySupervisor, h.supervisors]
    limit := hlimit.trans h.limit
    sink := hsink.trans h.sink
    process := ?_
    tended := ?_
    errands := fun hrequest htask hact => (h.errands hrequest htask hact).imp hover hstopping
    mute := fun hm => ⟨(h.mute hm).1.imp_left hstopping, (h.mute hm).2⟩ }
  · rcases hprocess with hp | hp
    · rw [hp]
      exact h.process.imp_right fun hp => ⟨hp.1, hover hp.2⟩
    · exact .inr hp
  · rcases htended with ht | ht
    · rw [ht]
      exact h.tended
    · exact .inr ht

/-- The process may change as long as its reader goes on and it stays watched. -/
theorem modifyProcess {f : Process → Process} {written' : Bytes} (howner : (f q).owner = q.owner)
    (hreader : (f q).stderr.reader = q.stderr.reader) (hwatched : (f q).watched = q.watched)
    (hends : (f q).stderr.pipe.ended = (f q).code.isSome)
    (hreads : (f q).stderr.Reads c.limit written' s.handed) :
    Tends c earlier acting asked written' (s.modifyProcess 0 f) sup (f q) := by
  have hdrained : (f q).Drained ↔ q.Drained := by rw [Process.Drained, hreader, Process.Drained]
  have hover : Over sup (f q) ↔ Over sup q := by rw [Over, hdrained, hwatched, Over]
  refine { h with
    processes := by simp [State.modifyProcess, h.processes]
    owner := howner.trans h.owner
    process := by rw [hover]; exact h.process
    tended := by rw [hdrained]; exact h.tended
    errands := fun hrequest htask hact => (h.errands hrequest htask hact).imp hover.mpr id
    ends := hends
    watch := by rw [hwatched, hreader]; exact h.watch
    reads := hreads
    reported := by rw [hwatched, hreader]; exact h.reported
    quiet := by rw [hdrained]; exact h.quiet
    mute := by rw [hwatched]; exact h.mute }

/-- What is done to the process: something may be cancelled. -/
theorem cancelReaders :
    ∃ q', q'.Drained ∧ Tends c earlier acting asked written (s.cancelReaders 0) sup q' := by
  let cancel (o : Output) : Output :=
    if o.reader = .reading then { o with reader := .cancelled } else o
  let q' : Process :=
    { q with stdout := cancel q.stdout, stderr := cancel q.stderr, watched := false }
  have hcancel : cancel q.stderr = q.stderr ∨
      cancel q.stderr = { q.stderr with reader := .cancelled } := by
    simp only [cancel]
    split
    · exact .inr rfl
    · exact .inl rfl
  have hdrained : q'.Drained := by
    simp only [Process.Drained, q', cancel]
    split
    · simp
    · next hreader => exact hreader
  refine ⟨q', hdrained, { h with
    processes := by simp [State.cancelReaders, State.modifyProcess, h.processes, q', cancel]
    process := h.process.imp_right fun hp => ⟨hp.1, hdrained, .inr rfl⟩
    tended := h.tended.imp_right fun ht => ⟨ht.1, hdrained⟩
    errands := fun hrequest htask hact =>
      (h.errands hrequest htask hact).imp (fun _ => ⟨hdrained, .inr rfl⟩) id
    ends := ?_
    watch := fun hw => by cases hw
    reads := ?_
    reported := ?_
    quiet := fun hd => ⟨hdrained, (h.quiet hd).2⟩
    mute := fun hm => ⟨.inr rfl, (h.mute hm).2⟩ }⟩
  · rcases hcancel with heq | heq <;> simp only [q', heq] <;> exact h.ends
  · rcases hcancel with heq | heq <;> simp only [q', heq]
    · exact h.reads
    · exact h.reads.cancel
  · refine h.reported.imp_right ?_
    rintro ⟨hcode, _, hreader⟩
    refine ⟨hcode, rfl, ?_⟩
    have hstays : cancel q.stderr = q.stderr := by
      simp only [cancel]
      rcases hreader with hreader | hreader <;> simp [hreader]
    simpa only [q', hstays] using hreader

/-! ### Stops -/

section Stop

variable {t : TaskId} (hacting : acting = none ∨ acting = some t)
  (hrequest : asked[t]? = some (.supervisorStop 0))

include hacting hrequest

theorem letGo (hdrained : q.Drained) (hstopping : sup.stopping) :
    Tended c earlier asked written (s.letGo t 0 .direct) := by
  have hsup := h.modifySupervisor (f := fun q => { q with process := none, tended := none }) rfl rfl
    (fun hs => hs) (.inr ⟨rfl, hdrained, .inl hstopping⟩) (.inr ⟨rfl, hdrained⟩)
  exact (hsup.emit rfl).setTask hacting hrequest (.finished _ fun _ => ⟨hdrained, .inl hstopping⟩)

theorem beginReap (hstopping : sup.stopping) :
    Tended c earlier asked written (s.beginReap t 0 .direct) := by
  unfold State.beginReap
  simp only [h.supervisors, List.getElem?_cons_zero, Option.bind_some]
  rcases h.tended with htended | ⟨htended, hdrained⟩
  · obtain ⟨q', hq', hcancelled⟩ := h.cancelReaders
    simp only [htended, h.processes, List.getElem?_cons_zero, Option.map_some]
    split
    · exact hcancelled.setTask hacting hrequest (.finished _ fun _ => ⟨hq', .inl hstopping⟩)
    · exact hcancelled.setTask hacting hrequest (.reaping ⟨hq', .inl hstopping⟩ hstopping)
    · next hfailed hrunning =>
        have hdrained : q.Drained := by
          intro hreading
          cases hout : q.stdout.reader <;> simp [State.remains, hout, hreading] at hfailed hrunning
        split
        · exact h.setTask hacting hrequest (.reaping ⟨hdrained, .inl hstopping⟩ hstopping)
        · exact h.letGo hacting hrequest hdrained hstopping
  · simp only [htended]
    exact h.letGo hacting hrequest hdrained hstopping

theorem endReap (hover : Over sup q) (hstopping : sup.stopping) (p : ProcessId) :
    Tended c earlier asked written (s.endReap t 0 p .direct) := by
  unfold State.endReap
  split
  · exact h.setTask hacting hrequest (.finished _ fun _ => hover)
  · exact h.letGo hacting hrequest hover.1 hstopping

theorem beginStop : Tended c earlier asked written (s.beginStop t 0 .direct) := by
  unfold State.beginStop
  simp only [h.supervisors, List.getElem?_cons_zero, Option.bind_some]
  rcases h.process with hprocess | ⟨hprocess, hover⟩
  · have hhalted := h.modifySupervisor (f := fun q => { q with stopping := true }) rfl rfl
      (fun _ => rfl) (.inl rfl) (.inl rfl)
    simp only [hprocess]
    split
    · exact (hhalted.emit rfl).setTask hacting hrequest (.exiting false rfl)
    · exact hhalted.beginReap hacting hrequest rfl
  · simp only [hprocess]
    exact h.setTask hacting hrequest (.finished _ fun _ => hover)

end Stop

theorem killSupervised :
    ∃ sup', Tends c earlier acting asked written (s.killSupervised 0) sup' q := by
  unfold State.killSupervised
  split
  · exact ⟨_, h⟩
  · have hhalted := h.modifySupervisor (f := fun q => { q with stopping := true }) rfl rfl
      (fun _ => rfl) (.inl rfl) (.inl rfl)
    exact ⟨_, hhalted.emit rfl⟩

/-! ### Commands -/

section Send

variable {t : TaskId} (hacting : acting = none ∨ acting = some t) {text : String}
  (hrequest : asked[t]? = some (.supervisorCommand 0 text))

include hacting hrequest

theorem endSend (r : Except Fault Answer) :
    Tended c earlier asked written ((s.releaseWrite 0).finish t r) := by
  have hreleased := h.modifySupervisor (f := fun q => { q with writeLock := q.writeLock.release })
    rfl rfl (fun hs => hs) (.inl rfl) (.inl rfl)
  exact hreleased.setTask hacting hrequest (.finished r nofun)

theorem writeCommand : Tended c earlier asked written (s.writeCommand t 0 text .direct) := by
  unfold State.writeCommand
  split
  · exact h.endSend hacting hrequest _
  · next p hp =>
      obtain ⟨rfl, _⟩ := h.of_isAlive (State.aliveProcess?_eq_some_iff.mp hp).2
      exact ((h.emit rfl).emit rfl).setTask hacting hrequest (.flushing text)

theorem beginSend : Tended c earlier asked written (s.beginSend t 0 text .direct) := by
  unfold State.beginSend
  have hacquired := h.modifySupervisor (f := fun q => { q with writeLock := q.writeLock.acquire t })
    rfl rfl (fun hs => hs) (.inl rfl) (.inl rfl)
  simp only
  split
  · exact hacquired.writeCommand hacting hrequest
  · exact hacquired.setTask hacting hrequest (.waiting text)

theorem flushed (flush : State.Flush) :
    Tended c earlier asked written (s.flushed t 0 0 text .direct flush) := by
  cases flush with
  | done => exact h.endSend hacting hrequest _
  | closed => exact h.endSend hacting hrequest _
  | timeout => exact ((h.emit rfl).emit rfl).endSend hacting hrequest _

end Send

end

section

variable (h : Tends c earlier none asked written s sup q)

include h

/-! ### Reading -/

/-- One more item of the error output is read, and handed over if it is a line. -/
theorem readNext (hreading : q.stderr.reader = .reading) {item : PipeItem} {pipe : Pipe}
    (hnext : q.stderr.pipe.Next c.limit item pipe) (es : List Effect)
    (hlines : handedLines es = Output.Reads.handedBy item) (hexits : handedExits es = []) :
    Tended c earlier asked written ((s.modifyProcess 0 fun q =>
      q.setOutput .stderr ⟨pipe, Output.Reads.readerAfter item⟩).emitAll es) := by
  have hnot : ¬q.Drained := fun hdrained => hdrained hreading
  have hafter : Output.Reads.readerAfter item ≠ .cancelled := by cases item <;> exact nofun
  have hended : pipe.ended = q.stderr.pipe.ended := by cases hnext <;> rfl
  have hsame := (State.exits_emitAll (s.modifyProcess 0 fun q =>
    q.setOutput .stderr ⟨pipe, Output.Reads.readerAfter item⟩) es).trans
      ((congrArg _ hexits).trans (List.append_nil _))
  refine ⟨sup, q.setOutput .stderr ⟨pipe, Output.Reads.readerAfter item⟩, {
    supervisors := by simpa [State.emitAll_eq, State.modifyProcess] using h.supervisors
    processes := by simp [State.emitAll_eq, State.modifyProcess, h.processes]
    limit := h.limit
    sink := h.sink
    owner := h.owner
    process := h.process.imp_right fun ⟨_, hover⟩ => absurd hover.1 hnot
    tended := h.tended.imp_right fun ⟨_, hdrained⟩ => absurd hdrained hnot
    asks := by simpa [State.emitAll_eq] using h.asks
    errands := ?_
    ends := hended.trans h.ends
    watch := fun _ => hafter
    reads := ?_
    reported := ?_
    quiet := fun hd => absurd (h.quiet hd).1 hnot
    mute := fun hm => ⟨(h.mute hm).1, hsame.trans (h.mute hm).2⟩ }⟩
  · intro t request task hrequest htask hact
    rw [State.emitAll_eq] at htask
    exact (h.errands hrequest htask hact).imp (fun hover => absurd hover.1 hnot) id
  · rw [State.handed_emitAll, hlines]
    exact h.reads.next hnext
  · rcases h.reported with hnone | ⟨_, _, hreader⟩
    · exact .inl (hsame.trans hnone)
    · simp [hreading] at hreader

theorem logLine (line : String) : Tends c earlier none asked written (s.logLine line) sup q := by
  unfold State.logLine
  simp only
  split
  · exact h
  · exact h.emit rfl

/-- The reader of the error output rests, or takes the next item. -/
theorem read_stderr_cases {takes : Recorder} {tellsExit : Bool}
    (hsink : c.sink = .recorder takes tellsExit) :
    s.read 0 .stderr = s ∧
        (q.stderr.reader = .reading → q.stderr.pipe.next? c.limit = none) ∨
      ∃ item pipe es, q.stderr.reader = .reading ∧
        q.stderr.pipe.next? c.limit = some (item, pipe) ∧
        handedLines es = Output.Reads.handedBy item ∧ handedExits es = [] ∧
        s.read 0 .stderr = (s.modifyProcess 0 fun q =>
          q.setOutput .stderr ⟨pipe, Output.Reads.readerAfter item⟩).emitAll es := by
  rcases s.read_cases 0 .stderr with ⟨hsame, hnot⟩ | ⟨q', sup', item, pipe, hdue⟩
  · refine .inl ⟨hsame, fun hreading => ?_⟩
    cases hnext : q.stderr.pipe.next? c.limit with
    | none => rfl
    | some next =>
        refine absurd ⟨?_, ?_, hreading, h.limit ▸ hnext⟩ (hnot q sup next.1 next.2)
        · simp [h.processes]
        · simp [h.owner, h.supervisors]
  · obtain ⟨rfl, rfl⟩ : q' = q ∧ sup' = sup := by
      have hprocess := hdue.process
      have hsup := hdue.supervisor
      simp only [h.processes, List.getElem?_cons_zero, Option.some.injEq] at hprocess
      subst hprocess
      simpa [h.owner, h.supervisors, eq_comm] using hsup
    right
    rw [State.read_eq hdue]
    refine ⟨item, pipe, ?_⟩
    have hreading := hdue.reading
    have hnext := h.limit ▸ hdue.next
    cases item with
    | finished => exact ⟨[], hreading, hnext, rfl, rfl, rfl⟩
    | failure => exact ⟨[], hreading, hnext, rfl, rfl, rfl⟩
    | dropped =>
        exact ⟨[State.overlongWarning .stderr sup'.limit], hreading, hnext, rfl, rfl, rfl⟩
    | line bytes =>
        simp only [State.handLine, h.sink, hsink]
        split
        · exact ⟨[.line (String.ofList (decodeLossy bytes))], hreading, hnext, rfl, rfl, rfl⟩
        · next e _ =>
            exact ⟨[.line (String.ofList (decodeLossy bytes)),
              .failure "Error handling compiler output line" e], hreading, hnext, rfl, rfl, rfl⟩

theorem read {takes : Recorder} {tellsExit : Bool}
    (hsink : c.sink = .recorder takes tellsExit) (p : ProcessId) (name : OutputName) :
    Tended c earlier asked written (s.read p name) := by
  cases p with
  | succ p =>
      have hnone : s.read (p + 1) name = s := by simp [State.read, h.processes]
      rw [hnone]
      exact ⟨_, _, h⟩
  | zero =>
      cases name with
      | stderr =>
          rcases h.read_stderr_cases hsink with
            ⟨hsame, _⟩ | ⟨item, pipe, es, hreading, hnext, hlines, hexits, heq⟩
          · rw [hsame]
            exact ⟨_, _, h⟩
          · rw [heq]
            exact h.readNext hreading (Pipe.next_of_next? hnext) es hlines hexits
      | stdout =>
          rcases s.read_cases 0 .stdout with ⟨hsame, _⟩ | ⟨_, _, item, rest, hdue⟩
          · rw [hsame]
            exact ⟨_, _, h⟩
          · have hkeep (reader : Reader) :
                Tends c earlier none asked written (s.keepOutput 0 .stdout rest reader) sup
                  (q.setOutput .stdout ⟨rest, reader⟩) :=
              h.modifyProcess (f := fun q => q.setOutput .stdout ⟨rest, reader⟩) rfl rfl rfl h.ends
                h.reads
            rw [State.read_eq hdue]
            cases item with
            | finished => exact ⟨_, _, hkeep .finished⟩
            | failure => exact ⟨_, _, hkeep .failed⟩
            | dropped => exact ⟨_, _, (hkeep .reading).emit rfl⟩
            | line bytes => exact ⟨_, _, (hkeep .reading).logLine _⟩

/-! ### Exits -/

theorem unwatch :
    Tends c earlier none asked written (s.unwatch 0) sup { q with watched := false } := by
  exact { h with
    processes := by simp [State.unwatch, State.modifyProcess, h.processes]
    process := h.process.imp_right fun ⟨hnone, hover⟩ => ⟨hnone, hover.1, .inr rfl⟩
    errands := fun hrequest htask hact =>
      (h.errands hrequest htask hact).imp (fun hover => ⟨hover.1, .inr rfl⟩) id
    watch := nofun
    reported := h.reported.imp_right fun ⟨hcode, _, hreader⟩ => ⟨hcode, rfl, hreader⟩
    mute := fun hm => ⟨.inr rfl, (h.mute hm).2⟩ }

/-- The supervisor lets go of a process whose output was read and that is not watched any more. -/
theorem forget (hdrained : q.Drained) (hwatched : q.watched = false) :
    ∃ sup', Tends c earlier none asked written (s.forget 0 0) sup' q := by
  refine ⟨_, h.modifySupervisor ?_ ?_ (fun hs => ?_) ?_ (.inl ?_)⟩
  · split <;> rfl
  · split <;> rfl
  · split <;> exact hs
  · split
    · exact .inr ⟨rfl, hdrained, .inr hwatched⟩
    · exact .inl rfl
  · split <;> rfl

/-- The exit is handed over, for the first time. -/
theorem emitExit (hfirst : s.exits = []) (hwatched : q.watched = false)
    (hreader : q.stderr.reader = .finished ∨ q.stderr.reader = .failed) (hloud : ¬earlier.Muted)
    (code : Int) : Tends c earlier none asked written (s.emit (.exit code)) sup q := by
  have hlines := s.handed_emitAll [.exit code]
  have hexits := s.exits_emitAll [.exit code]
  simp only [handedLines, handedExits, State.emitAll, List.foldl_cons, List.foldl_nil,
    List.filterMap_cons, List.filterMap_nil, List.append_nil, hfirst, List.nil_append]
    at hlines hexits
  refine { h with reads := ?_, reported := ?_, quiet := ?_, mute := fun hm => absurd hm hloud }
  · rw [hlines]; exact h.reads
  · exact .inr ⟨⟨code, hexits⟩, hwatched, hreader⟩
  · rw [hlines]; exact h.quiet

theorem of_exitDue {p : ProcessId} {q' : Process} {code : Int} {i : SupervisorId}
    {sup' : Supervisor} (hdue : s.ExitDue p q' code i sup') : p = 0 ∧ q = q' ∧ sup = sup' ∧ i = 0 := by
  have hprocess := hdue.process
  have hsup := hdue.supervisor
  rw [h.processes, List.getElem?_singleton] at hprocess
  rw [h.supervisors, List.getElem?_singleton] at hsup
  split at hprocess <;> cases hprocess
  split at hsup <;> cases hsup
  exact ⟨by assumption, rfl, rfl, by assumption⟩

theorem noticeExit {takes : Recorder} {tellsExit : Bool}
    (hsink : c.sink = .recorder takes tellsExit) (p : ProcessId) :
    Tended c earlier asked written (s.noticeExit p) := by
  rcases s.noticeExit_cases p with ⟨hsame, _⟩ | ⟨_, code, _, _, hdue⟩
  · rw [hsame]
    exact ⟨_, _, h⟩
  · obtain ⟨rfl, rfl, rfl, rfl⟩ := h.of_exitDue hdue
    have hdrained : q.Drained := hdue.drained
    have hreader : q.stderr.reader = .finished ∨ q.stderr.reader = .failed := by
      have hcancelled := h.watch hdue.watched
      cases hr : q.stderr.reader <;> simp_all [Process.Drained]
    have hfirst : s.exits = [] := by
      rcases h.reported with hnone | ⟨_, hunwatched, _⟩
      · exact hnone
      · simp [hdue.watched] at hunwatched
    have hfailures : ∀ e ∈ State.readerFailures q, e.hands = false := by
      intro e he
      obtain ⟨_, _, rfl⟩ := List.mem_map.mp he
      rfl
    have hunwatched := h.unwatch.emitAll _ hfailures
    rw [State.noticeExit_eq hdue]
    split
    · exact ⟨_, _, hunwatched⟩
    · next hstopping =>
        have hloud : ¬earlier.Muted := by
          intro hm
          rcases (h.mute hm).1 with hstops | hnot
          · exact hstopping hstops
          · simp [hdue.watched] at hnot
        obtain ⟨sup', hforgot⟩ := (hunwatched.emit (e := State.exitWarning code) rfl).forget hdrained rfl
        simp only [State.handExit, h.sink, hsink]
        split
        · refine ⟨_, _, hforgot.emitExit ?_ rfl hreader hloud code⟩
          rw [State.forget, State.exits_modifySupervisor, State.exits_emit _ rfl,
            State.exits_emitAll_of_not_hands _ _ hfailures]
          exact hfirst
        · exact ⟨_, _, hforgot⟩

/-! ### Events -/

theorem output (p : ProcessId) (name : OutputName) (bytes : Bytes) :
    Tended c earlier asked (written ++ (Event.output p name bytes).errorOutput s)
      (s.step (.output p name bytes)) := by
  simp only [State.step]
  split
  · next halive =>
      obtain ⟨rfl, hcode⟩ := h.of_isAlive halive
      have hopen : q.stderr.pipe.ended = false := by
        rw [h.ends, Option.isSome_eq_false_iff]
        exact hcode
      cases name with
      | stdout =>
          have hwrites : (Event.output 0 .stdout bytes).errorOutput s = [] := rfl
          rw [hwrites, List.append_nil]
          exact ⟨_, _, h.modifyProcess rfl rfl rfl h.ends h.reads⟩
      | stderr =>
          refine ⟨_, _, h.modifyProcess rfl rfl rfl h.ends ?_⟩
          rw [Event.errorOutput, if_pos halive]
          exact h.reads.feed hopen bytes
  · next hdead =>
      have hnone : (Event.output p name bytes).errorOutput s = [] := by
        cases p <;> cases name <;> simp_all [Event.errorOutput]
      rw [hnone, List.append_nil]
      exact ⟨_, _, h⟩

theorem exit (p : ProcessId) (code : Int) :
    Tended c earlier asked written (s.step (.exit p code)) := by
  simp only [State.step]
  split
  · next halive =>
      obtain ⟨rfl, _⟩ := h.of_isAlive halive
      exact ⟨_, _, h.modifyProcess rfl rfl rfl rfl h.reads.close⟩
  · exact ⟨_, _, h⟩

theorem breakOutput (p : ProcessId) (name : OutputName) :
    Tended c earlier asked written (s.step (.breakOutput p name)) := by
  cases p with
  | succ p =>
      exact ⟨_, _, { h with processes := by simp [State.step, State.modifyProcess, h.processes] }⟩
  | zero =>
      cases name with
      | stdout => exact ⟨_, _, h.modifyProcess rfl rfl rfl h.ends h.reads⟩
      | stderr => exact ⟨_, _, h.modifyProcess rfl rfl rfl h.ends h.reads.breaks⟩

/-- An event that concerns a task. -/
theorem of_task {e : Event} {t : TaskId} (he : e.task? = some t) :
    Tended c earlier asked written (s.step e) := by
  rcases State.step_resumes he with hsame | ⟨task, htask, hresumes⟩
  · rw [hsame]
    exact ⟨_, _, h⟩
  · have ht : t < asked.length := h.asks ▸ (List.getElem?_eq_some_iff.mp htask).1
    have hrequest := List.getElem?_eq_getElem ht
    have herrand := h.errands hrequest htask nofun
    generalize asked[t] = request at hrequest herrand
    generalize s.step e = s' at hresumes ⊢
    cases hresumes with
    | writeTurn i command stage =>
        cases herrand with
        | waiting text => exact h.writeCommand (.inl rfl) hrequest
    | reaped i p stage =>
        cases herrand with
        | reaping hover hstopping => exact h.endReap (.inl rfl) hrequest hover hstopping 0
    | flushed i p command stage flush =>
        cases herrand with
        | flushing text => exact h.flushed (.inl rfl) hrequest flush
    | exited i p killed stage =>
        cases herrand with
        | exiting _ hstopping => exact h.beginReap (.inl rfl) hrequest hstopping
    | stubborn i p stage =>
        cases herrand with
        | exiting _ hstopping =>
            exact ((h.emit rfl).emit rfl).setTask (.inl rfl) hrequest (.exiting true hstopping)
    | _ => cases herrand

theorem call {request : Request} (hrequest : request.ofCompiler) :
    Tended c earlier (asked ++ [request]) written (s.call request) := by
  have hadded := h.addTask rfl request (.finished (.ok .nothing))
  have hasked : (asked ++ [request])[s.tasks.length]? = some request := by simp [h.asks]
  unfold Request.ofCompiler at hrequest
  split at hrequest
  · exact hadded.beginStop (.inr rfl) hasked
  · obtain ⟨sup', hkilled⟩ := hadded.killSupervised
    exact hkilled.setTask (.inr rfl) hasked (.finished _ nofun)
  · exact hadded.beginSend (.inr rfl) hasked
  · cases hrequest

/-- Whatever happens, the supervisor goes on tending its process. -/
theorem step {takes : Recorder} {tellsExit : Bool}
    (hsink : c.sink = .recorder takes tellsExit) {e : Event} (he : e.ofCompiler) :
    Tended c earlier (asked ++ e.request?.toList) (written ++ e.errorOutput s) (s.step e) := by
  have hstay : Tended c earlier asked written s := ⟨_, _, h⟩
  have hquiet {e : Event} (hcall : e.request? = none) (hwrites : e.errorOutput s = [])
      (hs : Tended c earlier asked written (s.step e)) :
      Tended c earlier (asked ++ e.request?.toList) (written ++ e.errorOutput s) (s.step e) := by
    simpa [hcall, hwrites] using hs
  cases e with
  | call request =>
      have hwrites : (Event.call request).errorOutput s = [] := rfl
      rw [hwrites, List.append_nil]
      exact h.call he
  | proceed t | launched t _ | flushed t _ | exitSeen t | timeout t | waitFailed t _ =>
      exact hquiet rfl rfl (h.of_task rfl)
  | read p name => exact hquiet rfl rfl (h.read hsink p name)
  | notice p => exact hquiet rfl rfl (h.noticeExit hsink p)
  | output p name bytes => simpa [Event.request?] using h.output p name bytes
  | exit p code => exact hquiet rfl rfl (h.exit p code)
  | breakOutput p name => exact hquiet rfl rfl (h.breakOutput p name)
  | writeFile path bytes =>
      refine hquiet rfl rfl ?_
      simp only [State.step]
      split
      · exact ⟨_, _, { h with }⟩
      · exact hstay

end

end Tends

/-! ### Runs -/

/-- What events write to the error output of the process, in order. -/
def errorOutput (s : State) : List Event → Bytes
  | [] => []
  | e :: events => e.errorOutput s ++ errorOutput (s.step e) events

variable {c : Supervisor} {earlier s : State} {asked : List Request} {written : Bytes}
  {takes : Recorder} {tellsExit : Bool}

theorem Tended.run (h : Tended c earlier asked written s)
    (hsink : c.sink = .recorder takes tellsExit) {events : List Event}
    (hevents : ∀ e ∈ events, e.ofCompiler) :
    Tended c earlier (asked ++ requests events) (written ++ errorOutput s events)
      (s.run events) := by
  induction events generalizing s asked written with
  | nil => simpa [State.run, errorOutput] using h
  | cons e events ih =>
      rw [List.forall_mem_cons] at hevents
      obtain ⟨sup, q, ht⟩ := h
      rw [requests_cons, errorOutput, ← List.append_assoc, ← List.append_assoc]
      exact ih (ht.step hsink hevents.1) hevents.2

theorem Tended.now (h : Tended c earlier asked written s) : Tended c s asked written s := by
  obtain ⟨sup, q, ht⟩ := h
  exact ⟨sup, q, ht.now⟩

/-- A supervisor that records what it is handed and was not started yet. -/
def recorder (settings : Settings) (root : Path) (limit : Nat) (takes : Recorder)
    (tellsExit : Bool) : Supervisor :=
  { settings, root, limit, sink := .recorder takes tellsExit }

/-- One supervisor, started for the first time. -/
def State.attended (c : Supervisor) : State :=
  State.run { supervisors := [c] } [.call (.supervisorStart 0), .launched 0 (.ok ())]

theorem tended_attended (settings : Settings) (root : Path) (limit : Nat) (takes : Recorder)
    (tellsExit : Bool) :
    let c := recorder settings root limit takes tellsExit
    Tended c (State.attended c) [.supervisorStart 0] [] (State.attended c) := by
  intro c
  refine ⟨{ c with process := some 0, tended := some 0 },
    { launch := ⟨settings.residentCommand root.toText, none, limit⟩, owner := some 0, watched := true },
    { supervisors := rfl, processes := rfl, limit := rfl, sink := rfl, owner := rfl,
      process := .inl rfl, tended := .inl rfl, asks := rfl, errands := ?_, ends := rfl,
      watch := nofun, reads := .start limit, reported := .inl rfl,
      quiet := fun hd => ⟨hd _ (List.mem_singleton_self _), rfl⟩,
      mute := fun hm => ⟨hm _ (List.mem_singleton_self _) _ (List.mem_singleton_self _), rfl⟩ }⟩
  intro t request task hrequest htask _
  cases t with
  | zero =>
      cases hrequest
      cases htask
      exact .finished _ nofun
  | succ t => cases hrequest

end Machine

end Datapack
