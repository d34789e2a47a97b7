import Datapack.Proofs.Machine.Commands
import Datapack.Proofs.Machine.Watches

/-! Saves while a compiler runs. A save has its turn only when no command is being flushed, so it
opens its pass and writes the command of the pass in one step; lines of output come in between. -/

namespace Datapack.Machine

open Diagnostic Text

/-! ### Lines of output -/

/-- A line of output, without the mark that ends it. -/
structure Line where
  bytes : Bytes
  unmarked : Pipe.lineFeed ∉ bytes
deriving DecidableEq

namespace Line

def ended (l : Line) : Bytes := l.bytes ++ [Pipe.lineFeed]

/-- The line as it is handed over. -/
def text (l : Line) : String := String.ofList (decodeLossy l.ended)

theorem takeWhile_ended (l : Line) (rest : Bytes) :
    (l.ended ++ rest).takeWhile (· != Pipe.lineFeed) = l.bytes := by
  rw [ended, List.append_assoc, List.takeWhile_append_of_pos]
  · simp
  · intro b hb
    simpa using ne_of_mem_of_not_mem hb l.unmarked

theorem dropWhile_ended (l : Line) (rest : Bytes) :
    (l.ended ++ rest).dropWhile (· != Pipe.lineFeed) = Pipe.lineFeed :: rest := by
  rw [ended, List.append_assoc, List.dropWhile_append_of_pos]
  · simp
  · intro b hb
    simpa using ne_of_mem_of_not_mem hb l.unmarked

theorem ended_append_inj {l l' : Line} {rest rest' : Bytes}
    (h : l.ended ++ rest = l'.ended ++ rest') : l = l' ∧ rest = rest' := by
  have hfront := congrArg (List.takeWhile (· != Pipe.lineFeed)) h
  have hback := congrArg (List.dropWhile (· != Pipe.lineFeed)) h
  rw [takeWhile_ended, takeWhile_ended] at hfront
  rw [dropWhile_ended, dropWhile_ended, List.cons.injEq] at hback
  refine ⟨?_, hback.2⟩
  cases l
  cases l'
  cases hfront
  rfl

/-- Unread lines are told apart by their marks. -/
theorem flatMap_ended_eq_append {lines : List Line} {l : Line} {rest : Bytes}
    (h : lines.flatMap ended = l.ended ++ rest) :
    ∃ later, lines = l :: later ∧ rest = later.flatMap ended := by
  cases lines with
  | nil => simp [ended] at h
  | cons first later =>
      rw [List.flatMap_cons] at h
      obtain ⟨rfl, hrest⟩ := ended_append_inj h
      exact ⟨later, rfl, hrest.symm⟩

theorem count_flatMap_ended (lines : List Line) :
    (lines.flatMap ended).count Pipe.lineFeed = lines.length := by
  induction lines with
  | nil => rfl
  | cons l lines ih =>
      have hline : l.ended.count Pipe.lineFeed = 1 := by
        simp [ended, List.count_append, List.count_eq_zero_of_not_mem l.unmarked]
      rw [List.flatMap_cons, List.count_append, hline, ih, List.length_cons, Nat.add_comm]

/-- A line whose mark has arrived is the next thing read, or is dropped if it is too long. -/
theorem next?_ended (l : Line) {p : Pipe} {rest : Bytes} (hsound : p.broken = false)
    (h : p.buffer = l.ended ++ rest) (limit : Nat) :
    p.next? limit = some
      (if limit < l.bytes.length then .dropped else .line l.ended, { p with buffer := rest }) := by
  simp only [Pipe.next?, hsound, h, takeWhile_ended, dropWhile_ended, Bool.false_eq_true, if_false]
  split <;> rfl

end Line

/-! ### Turns -/

/-- The compiler of a session, and what its lines are read with. -/
structure Post where
  supervisor : SupervisorId
  process : ProcessId
  documents : Documents
  files : FileTree
  limit : Nat

/-- A task of a save that does not send anything. -/
inductive Resting : Task → Prop where
  | finished (r : Except Fault Answer) : Resting (.finished r)
  | waiting (uri : String) : Resting (.compileTurn (.save uri))

/-- A task of a save whose command is being flushed. -/
inductive Sending (post : Post) : Task → Prop where
  | errors (command : String) :
      Sending post (.flushing post.supervisor post.process command .saveErrors)
  | output (command : String) :
      Sending post (.flushing post.supervisor post.process command .saveOutput)

theorem Sending.not_resting {post : Post} {task : Task} (h : Sending post task) :
    ¬Resting task := by
  cases h <;> rintro ⟨⟩

/-- The tasks of saves, the compile lock and the lock of the compiler's input. The task that sends
has both locks, so nobody ever waits for the second one. -/
structure Turns (post : Post) (tasks : List Task) (lock write : Lock) : Prop where
  owner : ∀ t, lock.owner = some t → t < tasks.length
  queue : ∀ t ∈ lock.queue, t < tasks.length
  unqueued : write.queue = []
  both : ∀ t, write.owner = some t → lock.owner = some t
  task : ∀ t task, tasks[t]? = some task →
    Resting task ∧ write.owner ≠ some t ∨ Sending post task ∧ write.owner = some t

namespace Turns

variable {post : Post} {tasks : List Task} {lock write : Lock} {t : TaskId} {task : Task}

theorem eq_or_of_getElem?_set {t' : TaskId} {task' : Task}
    (h : (tasks.set t task)[t']? = some task') :
    t' = t ∧ task' = task ∨ t' ≠ t ∧ tasks[t']? = some task' := by
  rw [List.getElem?_set] at h
  split at h
  · next heq =>
      split at h
      · exact .inl ⟨heq.symm, (Option.some.inj h).symm⟩
      · cases h
  · next hne => exact .inr ⟨fun heq => hne heq.symm, h⟩

/-- A task that has its turn finds the compiler's input free. -/
theorem write_free (h : Turns post tasks lock write) (howner : lock.owner = some t)
    (htask : tasks[t]? = some task) (hrests : Resting task) : write = {} := by
  have hnone : write.owner = none := by
    cases hwrite : write.owner with
    | none => rfl
    | some t' =>
        have hsame := h.both t' hwrite
        rw [howner, Option.some.injEq] at hsame
        subst t'
        rcases h.task t task htask with ⟨_, hfree⟩ | ⟨hsends, _⟩
        · exact absurd hwrite hfree
        · exact absurd hrests hsends.not_resting
  have hqueue := h.unqueued
  cases write
  simp_all

/-- A new task takes the compile lock or queues for it. -/
theorem call (h : Turns post tasks lock write) (r : Except Fault Answer) :
    Turns post (tasks ++ [.finished r]) (lock.acquire tasks.length) write := by
  have hlength : (tasks ++ [Task.finished r]).length = tasks.length + 1 := by simp
  refine ⟨?_, ?_, h.unqueued, ?_, ?_⟩
  · intro t ht
    rw [hlength]
    cases howner : lock.owner with
    | none =>
        simp only [Lock.acquire, howner, Option.some.injEq] at ht
        exact ht ▸ Nat.lt_succ_self _
    | some t' =>
        simp only [Lock.acquire, howner] at ht
        exact Nat.lt_succ_of_lt (h.owner t (howner.trans ht))
  · intro t ht
    rw [hlength]
    cases howner : lock.owner with
    | none =>
        simp only [Lock.acquire, howner] at ht
        exact Nat.lt_succ_of_lt (h.queue t ht)
    | some t' =>
        simp only [Lock.acquire, howner, List.mem_append, List.mem_singleton] at ht
        rcases ht with ht | rfl
        · exact Nat.lt_succ_of_lt (h.queue t ht)
        · exact Nat.lt_succ_self _
  · intro t ht
    simp [Lock.acquire, h.both t ht]
  · intro t task ht
    by_cases hlt : t < tasks.length
    · rw [List.getElem?_append_left hlt] at ht
      exact h.task t task ht
    · have heq : t = tasks.length := by
        have hbound := (List.getElem?_eq_some_iff.mp ht).1
        rw [hlength] at hbound
        exact Nat.le_antisymm (Nat.le_of_lt_succ hbound) (Nat.le_of_not_lt hlt)
      subst t
      simp only [List.getElem?_concat_length, Option.some.injEq] at ht
      subst task
      exact .inl ⟨.finished r, fun hwrite => absurd (h.owner _ (h.both _ hwrite)) hlt⟩

theorem rest (h : Turns post tasks lock write) (hfree : write.owner ≠ some t)
    (hrests : Resting task) : Turns post (tasks.set t task) lock write := by
  refine ⟨by simpa using h.owner, by simpa using h.queue, h.unqueued, h.both, ?_⟩
  intro t' task' ht'
  rcases eq_or_of_getElem?_set ht' with ⟨rfl, rfl⟩ | ⟨_, ht'⟩
  · exact .inl ⟨hrests, hfree⟩
  · exact h.task t' task' ht'

/-- A task that has its turn sends a command, or one after another. -/
theorem send (h : Turns post tasks lock write) (howner : lock.owner = some t)
    (hwrite : write.owner = none ∨ write.owner = some t) (hsends : Sending post task) :
    Turns post (tasks.set t task) lock ⟨some t, []⟩ := by
  refine ⟨by simpa using h.owner, by simpa using h.queue, rfl, ?_, ?_⟩
  · rintro t' ⟨⟩
    exact howner
  · intro t' task' ht'
    rcases eq_or_of_getElem?_set ht' with ⟨rfl, rfl⟩ | ⟨hne, ht'⟩
    · exact .inr ⟨hsends, rfl⟩
    · refine .inl ⟨?_, fun heq => hne (Option.some.inj heq).symm⟩
      rcases h.task t' task' ht' with ⟨hrests, _⟩ | ⟨_, howns⟩
      · exact hrests
      · rcases hwrite with hwrite | hwrite <;> simp_all

/-- The task that sends gives both locks back when it ends. -/
theorem finish (h : Turns post tasks lock write) (hwrite : write.owner = some t)
    (r : Except Fault Answer) : Turns post (tasks.set t (.finished r)) lock.release {} := by
  have hlength : (tasks.set t (.finished r)).length = tasks.length := List.length_set
  refine ⟨?_, ?_, rfl, ?_, ?_⟩
  · intro t' ht'
    rw [hlength]
    exact h.queue t' (List.mem_of_mem_head? ht')
  · intro t' ht'
    rw [hlength]
    exact h.queue t' (List.mem_of_mem_tail ht')
  · rintro t' ⟨⟩
  · intro t' task' ht'
    refine .inl ⟨?_, by simp⟩
    rcases eq_or_of_getElem?_set ht' with ⟨rfl, rfl⟩ | ⟨hne, ht'⟩
    · exact .finished r
    · rcases h.task t' task' ht' with ⟨hrests, _⟩ | ⟨_, howns⟩
      · exact hrests
      · rw [hwrite, Option.some.injEq] at howns
        exact absurd howns.symm hne

end Turns

/-! ### The session and its compiler -/

/-- A session in persistent mode whose compiler runs and is listened to. The client takes empty
lists, so that passes can be opened. -/
structure Attends (post : Post) (s : State) (session : Session) (sup : Supervisor)
    (process : Process) : Prop where
  session_eq : s.session = some session
  supervisor_eq : s.supervisors[post.supervisor]? = some sup
  process_eq : s.processes[post.process]? = some process
  files : s.files = post.files
  mode : session.settings.mode = .persistent
  compiler : session.compiler = some post.supervisor
  documents : session.documents = post.documents
  clears : ∀ u, session.publisher ⟨u, []⟩ = .ok ()
  runs : sup.process = some post.process
  sink : sup.sink = .session s.generation
  limit : sup.limit = post.limit
  owner : process.owner = some post.supervisor
  alive : process.code = none
  reading : process.stderr.reader = .reading
  sound : process.stderr.pipe.broken = false
  unended : process.stderr.pipe.ended = false

/-- What saves and lines change of a session. -/
structure View where
  ledger : Ledger
  /-- The error output that was not read yet. -/
  pending : Bytes
  opened : Nat

namespace Post

/-- What opens a pass: the compiler is told to report errors. -/
def opening (post : Post) : Effect :=
  .write post.process (State.errorsCommand ++ State.commandEnd)

def view (post : Post) (s : State) : View where
  ledger := (s.session.map (·.ledger)).getD {}
  pending := (s.processes[post.process]?.map (·.stderr.pipe.buffer)).getD []
  opened := s.trace.toList.count post.opening

/-- Enters a line, unless it is too long to be handed over. -/
def enter (post : Post) (t : Ledger) (l : Line) : Ledger :=
  if post.limit < l.bytes.length then t
  else (t.perform (.takeLine post.documents post.files l.text)).after

/-- Only a command that reports errors opens a pass. -/
theorem compileCommand_ne_opening (post : Post) (path : String) (p : ProcessId) :
    Effect.write p (State.compileCommand path ++ State.commandEnd) ≠ post.opening := by
  intro h
  have htext := congrArg String.toList (Effect.write.inj h).2
  simp [State.compileCommand, State.errorsCommand] at htext

end Post

namespace Attends

variable {post : Post} {s s' : State} {session : Session} {sup : Supervisor} {process : Process}

theorem view_eq (h : Attends post s session sup process) :
    post.view s =
      ⟨session.ledger, process.stderr.pipe.buffer, s.trace.toList.count post.opening⟩ := by
  simp [Post.view, h.session_eq, h.process_eq]

theorem isAlive (h : Attends post s session sup process) : s.isAlive post.process := by
  simp [State.isAlive, h.process_eq, Process.isAlive, h.alive]

/-- The ledger, the locks and the unread output may change. -/
theorem update (h : Attends post s session sup process) {ledger : Ledger} {lock write : Lock}
    {buffer : Bytes} (hsession : s'.session = some { session with ledger, lock })
    (hsup : s'.supervisors[post.supervisor]? = some { sup with writeLock := write })
    (hprocess : s'.processes[post.process]? = some { process with
      stderr := { process.stderr with pipe := { process.stderr.pipe with buffer } } })
    (hfiles : s'.files = s.files) (hretired : s'.retired = s.retired) :
    Attends post s' { session with ledger, lock } { sup with writeLock := write } { process with
      stderr := { process.stderr with pipe := { process.stderr.pipe with buffer } } } where
  session_eq := hsession
  supervisor_eq := hsup
  process_eq := hprocess
  files := hfiles.trans h.files
  mode := h.mode
  compiler := h.compiler
  documents := h.documents
  clears := h.clears
  runs := h.runs
  sink := by rw [State.generation, hretired]; exact h.sink
  limit := h.limit
  owner := h.owner
  alive := h.alive
  reading := h.reading
  sound := h.sound
  unended := h.unended

/-- A save whose turn it is opens its pass and tells the compiler, in one step. -/
theorem runJob_eq (h : Attends post s session sup process) (hfree : sup.writeLock = {})
    (t : TaskId) (uri : String) :
    ∃ effects : List Effect,
      s.runJob t (.save uri) =
        { s with
          session := some { session with
            ledger := (session.ledger.perform (.openPass [uri])).after }
          supervisors := s.supervisors.modify post.supervisor fun q =>
            { q with writeLock := q.writeLock.acquire t }
          tasks := s.tasks.set t
            (.flushing post.supervisor post.process State.errorsCommand .saveErrors)
          trace := s.trace ++ effects.toArray } ∧
      effects.count post.opening = 1 := by
  let saved : Effect := .info ("Recompiling after save of " ++ uri)
  let told : Effect := .debug ("compiler <- " ++ State.errorsCommand)
  refine ⟨saved :: (session.ledger.passPlan [uri]).effects ++ [told, post.opening], ?_, ?_⟩
  · let cleared : State :=
      { s with
        session := some { session with ledger := (session.ledger.perform (.openPass [uri])).after }
        trace := s.trace.push saved ++ (session.ledger.passPlan [uri]).effects.toArray }
    have hopen : (s.emit saved).openPass [uri] = (cleared, .ok ()) :=
      State.openPass_eq (s := s.emit saved) h.session_eq h.clears [uri]
    have hsend := State.beginSend_eq (s := cleared) h.supervisor_eq h.runs h.isAlive
      (by simp [hfree]) t State.errorsCommand .saveErrors
    have hrunning : s.runningCompiler? = some post.supervisor := by
      simp [State.runningCompiler?, h.session_eq, h.compiler, State.aliveProcess?, h.supervisor_eq,
        h.runs, h.isAlive]
    simp only [State.runJob, h.session_eq, State.savePass, h.mode, hrunning, State.commandPass]
    rw [hopen]
    refine hsend.trans ?_
    simp [cleared, saved, told, Post.opening]
  · have hpublishes : post.opening ∉ (session.ledger.passPlan [uri]).effects := by
      simp [Ledger.passPlan, Post.opening]
    have hlogs : saved ≠ post.opening ∧ told ≠ post.opening := by
      simp [saved, told, Post.opening, Effect.info, Effect.debug]
    simp [List.count_eq_zero_of_not_mem hpublishes, hlogs]

theorem itemDue (h : Attends post s session sup process) {item : PipeItem} {rest : Pipe}
    (hnext : process.stderr.pipe.next? sup.limit = some (item, rest)) :
    s.ItemDue post.process .stderr process sup item rest :=
  ⟨h.process_eq, by simp [h.owner, h.supervisor_eq], h.reading, hnext⟩

/-- Unread lines are read one by one. -/
theorem read_eq (h : Attends post s session sup process) {l : Line} {rest : Bytes}
    (hpending : process.stderr.pipe.buffer = l.ended ++ rest) :
    ∃ effects : List Effect,
      s.read post.process .stderr =
        { s with
          session := some { session with ledger := post.enter session.ledger l }
          processes := s.processes.modify post.process fun q =>
            q.setOutput .stderr ⟨{ process.stderr.pipe with buffer := rest }, .reading⟩
          trace := s.trace ++ effects.toArray } ∧
      ∀ q text, Effect.write q text ∉ effects := by
  have hnext := l.next?_ended h.sound hpending sup.limit
  by_cases hlong : sup.limit < l.bytes.length
  · rw [if_pos hlong] at hnext
    refine ⟨[State.overlongWarning .stderr sup.limit], ?_, ?_⟩
    · rw [State.read_eq (h.itemDue hnext)]
      simp [State.keepOutput, State.emit, State.modifyProcess, Post.enter, ← h.limit, hlong,
        ← h.session_eq]
    · simp [State.overlongWarning, Effect.warning]
  · rw [if_neg hlong] at hnext
    let kept := s.keepOutput post.process .stderr { process.stderr.pipe with buffer := rest } .reading
    have hsession : kept.session = some session := h.session_eq
    obtain ⟨effects, hhand, hwrites⟩ := State.handLine_eq hsession l.text
    refine ⟨effects, ?_, hwrites⟩
    have hsink : sup.sink = .session kept.generation := h.sink
    rw [← hsink] at hhand
    rw [State.read_eq (h.itemDue hnext)]
    refine hhand.trans ?_
    simp [kept, State.keepOutput, State.modifyProcess, Post.enter, ← h.limit, hlong, h.documents,
      h.files]

theorem read_eq_self (h : Attends post s session sup process)
    (hpending : process.stderr.pipe.buffer = []) : s.read post.process .stderr = s := by
  rcases s.read_cases post.process .stderr with ⟨hsame, _⟩ | ⟨q, sup', item, rest, hdue⟩
  · exact hsame
  · have hprocess := hdue.process
    have hnext := hdue.next
    rw [h.process_eq, Option.some.injEq] at hprocess
    subst hprocess
    simp [Pipe.next?, h.sound, hpending, h.unended] at hnext

end Attends

/-! ### Steps -/

/-- What happens while documents are saved: saves come and have their turns, their commands are
flushed, and the compiler writes lines that are read. -/
inductive Beat where
  | save (uri : String)
  | turn (t : TaskId)
  | flush (t : TaskId)
  | emit (line : Line)
  | deliver

namespace Beat

def event (p : ProcessId) : Beat → Event
  | save uri => .call (.save uri)
  | turn t => .proceed t
  | flush t => .flushed t .done
  | emit line => .output p .stderr line.ended
  | deliver => .read p .stderr

def emitted : Beat → List Line
  | emit line => [line]
  | _ => []

end Beat

/-- What a beat does to a session as far as it is viewed: a pass is opened, a line is written, a
line is entered, or nothing happens. -/
inductive Post.Moves (post : Post) (v : View) : Beat → View → Prop where
  | stay {b : Beat} (h : b.emitted = []) : Moves post v b v
  | pass {b : Beat} (h : b.emitted = []) (uri : String) :
      Moves post v b { v with
        ledger := (v.ledger.perform (.openPass [uri])).after, opened := v.opened + 1 }
  | emit (l : Line) : Moves post v (.emit l) { v with pending := v.pending ++ l.ended }
  | enter (l : Line) {rest : Bytes} (h : v.pending = l.ended ++ rest) :
      Moves post v .deliver { v with ledger := post.enter v.ledger l, pending := rest }

/-- An attended compiler, locks that are held in turn, and unread output made of whole lines. -/
structure Serves (post : Post) (s : State) (session : Session) (sup : Supervisor)
    (process : Process) : Prop extends Attends post s session sup process where
  turns : Turns post s.tasks session.lock sup.writeLock
  lines : ∃ lines : List Line, process.stderr.pipe.buffer = lines.flatMap Line.ended

/-- What every beat keeps. -/
def Post.Holds (post : Post) (s : State) : Prop :=
  ∃ session sup process, Serves post s session sup process

/-- The state after a beat keeps what holds, and its view has moved with the beat. -/
structure Post.Follows (post : Post) (s : State) (b : Beat) (s' : State) : Prop where
  holds : post.Holds s'
  moves : post.Moves (post.view s) b (post.view s')

namespace Serves

variable {post : Post} {s : State} {session : Session} {sup : Supervisor} {process : Process}
variable {t : TaskId}

theorem stay (h : Serves post s session sup process) {b : Beat} (hb : b.emitted = []) {s' : State}
    (hs : s' = s) : post.Follows s b s' := by
  subst s'
  exact ⟨⟨_, _, _, h⟩, .stay hb⟩

theorem runJob (h : Serves post s session sup process) {task : Task}
    (howner : session.lock.owner = some t) (htask : s.tasks[t]? = some task)
    (hrests : Resting task) (uri : String) {b : Beat} (hb : b.emitted = []) :
    post.Follows s b (s.runJob t (.save uri)) := by
  have hfree := h.turns.write_free howner htask hrests
  obtain ⟨effects, hjob, hcount⟩ := h.runJob_eq hfree t uri
  have hupdated : Attends post (s.runJob t (.save uri))
      { session with ledger := (session.ledger.perform (.openPass [uri])).after }
      { sup with writeLock := ⟨some t, []⟩ } process :=
    h.update (by rw [hjob]) (by simp [hjob, h.supervisor_eq, hfree, Lock.acquire])
      (by rw [hjob]; exact h.process_eq) (by rw [hjob]) (by rw [hjob])
  refine ⟨⟨_, _, _, hupdated, ?_, h.lines⟩, ?_⟩
  · rw [hjob]
    exact h.turns.send howner (.inl (by simp [hfree])) (.errors _)
  · rw [hupdated.view_eq, h.view_eq, hjob]
    simp only [Array.toList_append, List.count_append, hcount]
    exact .pass hb uri

theorem endPass (h : Serves post s session sup process) (hwrite : sup.writeLock.owner = some t)
    {effects : List Effect} (heffects : post.opening ∉ effects) :
    post.Follows s (.flush t)
      (((s.releaseWrite post.supervisor).emitAll effects).endPass t (.ok .nothing)) := by
  have hended : ((s.releaseWrite post.supervisor).emitAll effects).endPass t (.ok .nothing) =
      { s with
        session := some { session with lock := session.lock.release }
        supervisors := s.supervisors.modify post.supervisor fun q =>
          { q with writeLock := q.writeLock.release }
        tasks := s.tasks.set t (.finished (.ok .nothing))
        trace := s.trace ++ effects.toArray } := by
    simp [State.emitAll_eq, State.releaseWrite, State.modifySupervisor, State.endPass,
      State.modifySession, h.session_eq, State.finish, State.setTask]
  have hrelease : sup.writeLock.release = {} := by simp [Lock.release, h.turns.unqueued]
  have hupdated : Attends post
      (((s.releaseWrite post.supervisor).emitAll effects).endPass t (.ok .nothing))
      { session with lock := session.lock.release } { sup with writeLock := {} } process :=
    h.update (by rw [hended]) (by simp [hended, h.supervisor_eq, hrelease])
      (by rw [hended]; exact h.process_eq) (by rw [hended]) (by rw [hended])
  refine ⟨⟨_, _, _, hupdated, ?_, h.lines⟩, ?_⟩
  · rw [hended]
    exact h.turns.finish hwrite _
  · rw [hupdated.view_eq, h.view_eq, hended]
    simp only [Array.toList_append, List.count_append, List.count_eq_zero_of_not_mem heffects]
    exact .stay rfl

/-- A second command of a pass is sent right after the first one was flushed. -/
theorem resend (h : Serves post s session sup process) (hwrite : sup.writeLock.owner = some t)
    (path : String) :
    post.Follows s (.flush t) ((s.releaseWrite post.supervisor).beginSend t post.supervisor
      (State.compileCommand path) .saveOutput) := by
  have hrelease : sup.writeLock.release = {} := by simp [Lock.release, h.turns.unqueued]
  have hreleased : Attends post (s.releaseWrite post.supervisor) session
      { sup with writeLock := {} } process :=
    h.update h.session_eq
      (by simp [State.releaseWrite, State.modifySupervisor, h.supervisor_eq, hrelease])
      h.process_eq rfl rfl
  have hsend := State.beginSend_eq hreleased.supervisor_eq hreleased.runs hreleased.isAlive rfl t
    (State.compileCommand path) .saveOutput
  have hupdated : Attends post ((s.releaseWrite post.supervisor).beginSend t post.supervisor
      (State.compileCommand path) .saveOutput) session { sup with writeLock := ⟨some t, []⟩ }
      process :=
    hreleased.update (by rw [hsend]; exact hreleased.session_eq)
      (by simp [hsend, hreleased.supervisor_eq, Lock.acquire])
      (by rw [hsend]; exact hreleased.process_eq) (by rw [hsend]) (by rw [hsend])
  refine ⟨⟨_, _, _, hupdated, ?_, h.lines⟩, ?_⟩
  · rw [hsend]
    exact h.turns.send (h.turns.both t hwrite) (.inr hwrite) (.output _)
  · have hcommand := post.compileCommand_ne_opening path post.process
    have hlog : Effect.debug ("compiler <- " ++ State.compileCommand path) ≠ post.opening := by
      simp [Effect.debug, Post.opening]
    have hsame : post.view ((s.releaseWrite post.supervisor).beginSend t post.supervisor
        (State.compileCommand path) .saveOutput) = post.view s := by
      rw [hupdated.view_eq, h.view_eq, hsend]
      simp [State.releaseWrite, State.modifySupervisor, hcommand, hlog]
    rw [hsame]
    exact .stay rfl

end Serves

namespace Post.Holds

variable {post : Post} {s : State}

theorem save (h : post.Holds s) (uri : String) :
    post.Follows s (.save uri) (s.step (.call (.save uri))) := by
  obtain ⟨session, sup, process, h⟩ := h
  let called : State :=
    { s with
      tasks := s.tasks ++ [.finished (.ok .nothing)]
      session := some { session with lock := session.lock.acquire s.tasks.length } }
  have hcalled : Serves post called { session with lock := session.lock.acquire s.tasks.length }
      sup process :=
    ⟨h.update rfl h.supervisor_eq h.process_eq rfl rfl, h.turns.call _, h.lines⟩
  have hview : post.view called = post.view s := by rw [hcalled.view_eq, h.view_eq]
  have htask : called.tasks[s.tasks.length]? = some (.finished (.ok .nothing)) := by simp [called]
  have hstep : s.step (.call (.save uri)) =
      if (session.lock.acquire s.tasks.length).owner = some s.tasks.length then
        called.runJob s.tasks.length (.save uri)
      else called.setTask s.tasks.length (.compileTurn (.save uri)) := by
    simp [State.step, State.call, State.beginJob, State.modifySession, h.session_eq, called]
  rw [hstep]
  split
  · next howner =>
      have hopened := hcalled.runJob howner htask (.finished _) uri (b := .save uri) rfl
      exact ⟨hopened.holds, hview ▸ hopened.moves⟩
  · next hwaits =>
      have hfree : sup.writeLock.owner ≠ some s.tasks.length :=
        fun hwrite => hwaits (hcalled.turns.both _ hwrite)
      have hwaiting : Attends post (called.setTask s.tasks.length (.compileTurn (.save uri)))
          { session with lock := session.lock.acquire s.tasks.length } sup process :=
        hcalled.update rfl hcalled.supervisor_eq hcalled.process_eq rfl rfl
      refine ⟨⟨_, _, _, hwaiting, hcalled.turns.rest hfree (.waiting uri), h.lines⟩, ?_⟩
      rw [hwaiting.view_eq, h.view_eq]
      exact .stay rfl

theorem turn (h : post.Holds s) (t : TaskId) :
    post.Follows s (.turn t) (s.step (.proceed t)) := by
  obtain ⟨session, sup, process, h⟩ := h
  cases htask : s.tasks[t]? with
  | none => exact h.stay rfl (by simp [State.step, State.proceed, htask])
  | some task =>
      rcases h.turns.task t task htask with ⟨hrests, _⟩ | ⟨hsends, _⟩
      · cases hrests with
        | finished r => exact h.stay rfl (by simp [State.step, State.proceed, htask])
        | waiting uri =>
            have hstep : s.step (.proceed t) =
                if session.lock.owner = some t then s.runJob t (.save uri) else s := by
              simp [State.step, State.proceed, htask, h.session_eq]
            rw [hstep]
            split
            · next howner => exact h.runJob howner htask (.waiting uri) uri rfl
            · exact h.stay rfl rfl
      · refine h.stay rfl ?_
        cases hsends <;> simp [State.step, State.proceed, htask]

/-- A task whose command was flushed sends its second command or ends its pass. -/
theorem flush (h : post.Holds s) (t : TaskId) :
    post.Follows s (.flush t) (s.step (.flushed t .done)) := by
  obtain ⟨session, sup, process, h⟩ := h
  cases htask : s.tasks[t]? with
  | none => exact h.stay rfl (by simp [State.step, htask])
  | some task =>
      rcases h.turns.task t task htask with ⟨hrests, _⟩ | ⟨hsends, hwrite⟩
      · refine h.stay rfl ?_
        cases hrests <;> simp [State.step, htask]
      · have hended := h.endPass hwrite (List.not_mem_nil (a := post.opening))
        have hsession : (s.releaseWrite post.supervisor).session = some session :=
          h.session_eq
        cases hsends with
        | output command =>
            have hstep : s.step (.flushed t .done) =
                ((s.releaseWrite post.supervisor).emitAll [.notify .reloadServer]).endPass t
                  (.ok .nothing) := by
              simp [State.step, htask, State.flushed, State.afterSend, State.emitAll]
            rw [hstep]
            exact h.endPass hwrite (by simp [Post.opening])
        | errors command =>
            have hstep : s.step (.flushed t .done) =
                (s.releaseWrite post.supervisor).afterSend t post.supervisor .saveErrors := by
              simp [State.step, htask, State.flushed]
            rw [hstep]
            cases hpath : session.outputPath with
            | none => simpa [State.afterSend, hsession, hpath, State.emitAll] using hended
            | some path =>
                by_cases hempty : path.isEmpty
                · simpa [State.afterSend, hsession, hpath, hempty, State.emitAll] using hended
                · simpa [State.afterSend, hsession, hpath, hempty] using
                    h.resend hwrite path

theorem emit (h : post.Holds s) (l : Line) :
    post.Follows s (.emit l) (s.step (.output post.process .stderr l.ended)) := by
  obtain ⟨session, sup, process, h⟩ := h
  obtain ⟨lines, hlines⟩ := h.lines
  have hstep : s.step (.output post.process .stderr l.ended) =
      s.modifyProcess post.process fun q =>
        q.setOutput .stderr { q.stderr with pipe := q.stderr.pipe.feed l.ended } := by
    simp [State.step, h.isAlive]
  have hupdated : Attends post (s.step (.output post.process .stderr l.ended)) session sup
      { process with stderr := { process.stderr with pipe := { process.stderr.pipe with
        buffer := process.stderr.pipe.buffer ++ l.ended } } } :=
    h.update (by rw [hstep]; exact h.session_eq) (by rw [hstep]; exact h.supervisor_eq)
      (by simp [hstep, State.modifyProcess, h.process_eq, Process.setOutput, Pipe.feed])
      (by rw [hstep]; rfl) (by rw [hstep]; rfl)
  refine ⟨⟨_, _, _, hupdated, ?_, lines ++ [l], by simp [hlines]⟩, ?_⟩
  · rw [hstep]
    exact h.turns
  · rw [hupdated.view_eq, h.view_eq, hstep]
    exact .emit l

theorem deliver (h : post.Holds s) :
    post.Follows s .deliver (s.step (.read post.process .stderr)) := by
  obtain ⟨session, sup, process, h⟩ := h
  obtain ⟨lines, hlines⟩ := h.lines
  cases lines with
  | nil => exact h.stay rfl (h.read_eq_self (by simpa using hlines))
  | cons l lines =>
      rw [List.flatMap_cons] at hlines
      obtain ⟨effects, hread, hwrites⟩ := h.read_eq hlines
      have hstep : s.step (.read post.process .stderr) = s.read post.process .stderr := rfl
      rw [hread] at hstep
      have hupdated : Attends post (s.step (.read post.process .stderr))
          { session with ledger := post.enter session.ledger l } sup { process with
            stderr := { process.stderr with pipe := { process.stderr.pipe with
              buffer := lines.flatMap Line.ended } } } :=
        h.update (by rw [hstep]) (by rw [hstep]; exact h.supervisor_eq)
          (by simp [hstep, h.process_eq, Process.setOutput, h.reading])
          (by rw [hstep]) (by rw [hstep])
      refine ⟨⟨_, _, _, hupdated, ?_, lines, rfl⟩, ?_⟩
      · rw [hstep]
        exact h.turns
      · have hcount : effects.count post.opening = 0 :=
          List.count_eq_zero_of_not_mem (hwrites _ _)
        rw [hupdated.view_eq, h.view_eq, hstep]
        simp only [Array.toList_append, List.count_append, hcount, Nat.add_zero]
        exact .enter l hlines

theorem step (h : post.Holds s) (b : Beat) :
    post.Follows s b (s.step (b.event post.process)) := by
  cases b with
  | save uri => exact h.save uri
  | turn t => exact h.turn t
  | flush t => exact h.flush t
  | emit l => exact h.emit l
  | deliver => exact h.deliver

end Post.Holds

end Datapack.Machine
