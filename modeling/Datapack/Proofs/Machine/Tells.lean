import Datapack.Proofs.Machine.Frames
import Datapack.Proofs.Ledger.Passes

/-! What a session tells: the log, publications, and output that it hands over. None of this matters
to the tasks that look after its compiler. -/

namespace Datapack

/-- Whether an effect only tells something: an entry of the log, a publication, or output that is
handed over. -/
def Effect.tells : Effect → Bool
  | log _ | publish _ | line _ | exit _ => true
  | launch _ | write _ _ | signal _ _ | notify _ => false

/-- Whether an effect hands something over. -/
def Effect.hands : Effect → Bool
  | line _ | exit _ => true
  | _ => false

namespace Machine

open Diagnostic Text

/-! ### Views -/

namespace State

/-- The supervisor of the session's compiler. -/
def handle (s : State) : Option SupervisorId := s.session.bind (·.compiler)

/-- The task that has the compile lock. -/
def turn (s : State) : Option TaskId := s.session.bind (·.lock.owner)

/-- The root that the session's compilers are launched for. -/
def root (s : State) : Option Path := s.session.bind (·.root)

/-- Where saves are compiled to. -/
def outputPath (s : State) : Option String := s.session.bind (·.outputPath)

/-- What the session has published. -/
def store? (s : State) : Option Store := s.session.map (·.ledger.store)

def ownerOf? (s : State) (p : ProcessId) : Option SupervisorId := s.processes[p]?.bind (·.owner)

def processOf? (s : State) (i : SupervisorId) : Option ProcessId :=
  s.supervisors[i]?.bind (·.process)

def stopping (s : State) (i : SupervisorId) : Bool := s.supervisors[i]?.any (·.stopping)

/-- Whether the exit of a process is still to be reported. -/
def watched (s : State) (p : ProcessId) : Bool := s.processes[p]?.any (·.watched)

theorem stopping_iff {s : State} {i : SupervisorId} :
    s.stopping i ↔ ∃ sup, s.supervisors[i]? = some sup ∧ sup.stopping := by
  simp [stopping, Option.any_eq_true]

/-- What a change of the session leaves alone. -/
theorem bind_modifySession {α : Type} (s : State) {f : Session → Session} {g : Session → Option α}
    (hg : ∀ q, g (f q) = g q) : (s.modifySession f).session.bind g = s.session.bind g := by
  cases hs : s.session <;> simp [modifySession, hs, hg]

theorem store?_clearStream (s : State) : s.clearStream.store? = s.store? := by
  simp [store?, clearStream, modifySession, Ledger.clearStream, Function.comp_def]

theorem aliveProcess?_eq_some_iff {s : State} {i : SupervisorId} {p : ProcessId} :
    s.aliveProcess? i = some p ↔ s.processOf? i = some p ∧ s.isAlive p := by
  unfold aliveProcess? processOf?
  cases s.supervisors[i]? with
  | none => simp
  | some sup =>
      cases hp : sup.process with
      | none => simp [hp]
      | some p' =>
          simp only [Option.bind_eq_bind, Option.bind_some, hp]
          grind

theorem runningCompiler?_eq_some_iff {s : State} {i : SupervisorId} :
    s.runningCompiler? = some i ↔ s.handle = some i ∧ (s.aliveProcess? i).isSome := by
  unfold runningCompiler? handle
  cases s.session with
  | none => simp
  | some q =>
      cases hq : q.compiler with
      | none => simp [hq]
      | some j => cases hj : s.aliveProcess? j <;> simp [hq, hj] <;> grind

end State

/-- What of a session matters to its tasks. -/
def Session.post (q : Session) :
    CompilerMode × Option SupervisorId × Lock × Option Path × Option String :=
  (q.settings.mode, q.compiler, q.lock, q.root, q.outputPath)

/-- What of a process matters to tasks: who looks after it, and whether it is alive and watched. -/
def Process.badge (p : Process) : Option SupervisorId × Bool × Bool :=
  (p.owner, p.isAlive, p.watched)

/-- From one state to the other, nothing but diagnostics, files, output and tasks changed, and what
happened was only told. -/
structure Tells (s s' : State) : Prop where
  session : s'.session.map Session.post = s.session.map Session.post
  generation : s'.generation = s.generation
  supervisors : s'.supervisors = s.supervisors
  processes : s'.processes.map Process.badge = s.processes.map Process.badge
  trace : ∃ es : List Effect, s'.trace = s.trace ++ es.toArray ∧ ∀ e ∈ es, e.tells

namespace Tells

variable {s s' s'' : State}

theorem refl (s : State) : Tells s s := ⟨rfl, rfl, rfl, rfl, [], by simp, by simp⟩

theorem trans (h : Tells s s') (h' : Tells s' s'') : Tells s s'' := by
  obtain ⟨es, htrace, htells⟩ := h.trace
  obtain ⟨es', htrace', htells'⟩ := h'.trace
  refine ⟨h'.session.trans h.session, h'.generation.trans h.generation,
    h'.supervisors.trans h.supervisors, h'.processes.trans h.processes, es ++ es', ?_, ?_⟩
  · rw [htrace', htrace]
    simp
  · intro e he
    rcases List.mem_append.mp he with he | he
    · exact htells e he
    · exact htells' e he

/-! What stays as it is. -/

theorem handle_eq (h : Tells s s') : s'.handle = s.handle := by
  have hpost := congrArg (Option.bind · fun post => post.2.1) h.session
  simpa [State.handle, Session.post, Option.bind_map, Function.comp_def] using hpost

theorem turn_eq (h : Tells s s') : s'.turn = s.turn := by
  have hpost := congrArg (Option.bind · fun post => post.2.2.1.owner) h.session
  simpa [State.turn, Session.post, Option.bind_map, Function.comp_def] using hpost

theorem root_eq (h : Tells s s') : s'.root = s.root := by
  have hpost := congrArg (Option.bind · fun post => post.2.2.2.1) h.session
  simpa [State.root, Session.post, Option.bind_map, Function.comp_def] using hpost

theorem outputPath_eq (h : Tells s s') : s'.outputPath = s.outputPath := by
  have hpost := congrArg (Option.bind · fun post => post.2.2.2.2) h.session
  simpa [State.outputPath, Session.post, Option.bind_map, Function.comp_def] using hpost

theorem badge_eq (h : Tells s s') (p : ProcessId) :
    s'.processes[p]?.map Process.badge = s.processes[p]?.map Process.badge := by
  rw [← List.getElem?_map, h.processes, List.getElem?_map]

theorem ownerOf?_eq (h : Tells s s') (p : ProcessId) : s'.ownerOf? p = s.ownerOf? p := by
  have hbadge := congrArg (Option.bind · fun badge => badge.1) (h.badge_eq p)
  simpa [State.ownerOf?, Process.badge, Option.bind_map, Function.comp_def] using hbadge

theorem isAlive_eq (h : Tells s s') (p : ProcessId) : s'.isAlive p = s.isAlive p := by
  have hbadge := congrArg (fun badge => (badge.map fun b => b.2.1).getD false) (h.badge_eq p)
  simpa [State.isAlive, Process.badge, Function.comp_def] using hbadge

theorem length_eq (h : Tells s s') : s'.processes.length = s.processes.length := by
  simpa using congrArg List.length h.processes

theorem processOf?_eq (h : Tells s s') (i : SupervisorId) : s'.processOf? i = s.processOf? i := by
  rw [State.processOf?, h.supervisors, State.processOf?]

theorem stopping_eq (h : Tells s s') (i : SupervisorId) : s'.stopping i = s.stopping i := by
  rw [State.stopping, h.supervisors, State.stopping]

theorem watched_eq (h : Tells s s') (p : ProcessId) : s'.watched p = s.watched p := by
  have hbadge := congrArg (Option.any fun badge => badge.2.2) (h.badge_eq p)
  simpa [State.watched, Process.badge, Option.any_map, Function.comp_def] using hbadge

theorem aliveProcess?_eq (h : Tells s s') (i : SupervisorId) :
    s'.aliveProcess? i = s.aliveProcess? i := by
  apply Option.ext
  intro p
  simp only [State.aliveProcess?_eq_some_iff, h.processOf?_eq, h.isAlive_eq]

/-! What tells. -/

theorem emit (s : State) {e : Effect} (he : e.tells) : Tells s (s.emit e) :=
  ⟨rfl, rfl, rfl, rfl, [e], by simp [State.emit], by simpa using he⟩

theorem emitAll (s : State) {es : List Effect} (hes : ∀ e ∈ es, e.tells) :
    Tells s (s.emitAll es) := by
  rw [State.emitAll_eq]
  exact ⟨rfl, rfl, rfl, rfl, es, rfl, hes⟩

theorem setTask (s : State) (t : TaskId) (task : Task) : Tells s (s.setTask t task) :=
  ⟨rfl, rfl, rfl, rfl, [], by simp [State.setTask], by simp⟩

theorem modifySession (s : State) {f : Session → Session} (hf : ∀ q, (f q).post = q.post) :
    Tells s (s.modifySession f) := by
  refine ⟨?_, rfl, rfl, rfl, [], by simp [State.modifySession], by simp⟩
  simp [State.modifySession, Function.comp_def, hf]

theorem modifySessionOf (s : State) (generation : Nat) {f : Session → Session}
    (hf : ∀ q, (f q).post = q.post) : Tells s (s.modifySessionOf generation f) := by
  unfold State.modifySessionOf
  split
  · exact modifySession s hf
  · exact ⟨rfl, by simp [State.generation], rfl, rfl, [], by simp, by simp⟩

theorem modifyProcess (s : State) (p : ProcessId) {f : Process → Process}
    (hf : ∀ q, (f q).badge = q.badge) : Tells s (s.modifyProcess p f) := by
  refine ⟨rfl, rfl, rfl, ?_, [], by simp [State.modifyProcess], by simp⟩
  apply List.ext_getElem?
  intro n
  simp only [State.modifyProcess, List.getElem?_map, List.getElem?_modify]
  split
  · simp [Function.comp_def, hf]
  · simp

theorem submit (s : State) (generation : Nat) (op : Session → Operation) :
    Tells s (s.submit generation op).1 := by
  rcases s.submit_cases generation op with ⟨_, h⟩ | ⟨q, t, es, result, _, _, h, hes⟩ <;> rw [h]
  · exact refl s
  · refine (modifySessionOf s generation ?_).trans (emitAll _ fun e he => ?_)
    · exact fun _ => rfl
    · rcases hes e he with ⟨_, rfl⟩ | ⟨_, rfl⟩ <;> rfl

theorem clearStream (s : State) : Tells s s.clearStream := modifySession s fun _ => rfl

theorem openPass (s : State) (extra : List String) : Tells s (s.openPass extra).1 :=
  s.openPass_eq_submit extra ▸ submit s _ _

/-- A pass that is opened, or refused by the client, only tells. -/
theorem of_openPass {extra : List String} {result : Except Fault Unit}
    (h : s.openPass extra = (s', result)) : Tells s s' ∧ s'.tasks = s.tasks := by
  have htells := openPass s extra
  have htasks := State.tasks_openPass s extra
  rw [h] at htells htasks
  exact ⟨htells, htasks⟩

theorem closeDocument (s : State) (uri : String) : Tells s (s.closeDocument uri).1 :=
  s.closeDocument_eq_submit uri ▸ submit s _ _

theorem takeLine (s : State) (generation : Nat) (line : String) :
    Tells s (s.takeLine generation line).1 :=
  s.takeLine_eq_submit generation line ▸ submit s _ _

theorem handLine (s : State) (sink : Sink) (line : String) : Tells s (s.handLine sink line) := by
  unfold State.handLine
  cases sink with
  | session generation =>
      have htake := takeLine s generation line
      simp only
      generalize s.takeLine generation line = taken at htake ⊢
      obtain ⟨s', result⟩ := taken
      cases result with
      | ok _ => exact htake
      | error e => exact htake.trans (emit s' rfl)
  | recorder takes tellsExit =>
      simp only
      split
      · exact emit s rfl
      · exact (emit s rfl).trans (emit _ rfl)

theorem logLine (s : State) (line : String) : Tells s (s.logLine line) := by
  unfold State.logLine
  simp only
  split
  · exact refl s
  · exact emit s rfl

theorem setOutput (s : State) (p : ProcessId) (name : OutputName) (o : Process → Output) :
    Tells s (s.modifyProcess p fun q => q.setOutput name (o q)) :=
  modifyProcess s p fun q => by cases name <;> rfl

theorem read (s : State) (p : ProcessId) (name : OutputName) : Tells s (s.read p name) := by
  have hkeep (rest : Pipe) (reader : Reader) : Tells s (s.keepOutput p name rest reader) :=
    setOutput s p name fun _ => ⟨rest, reader⟩
  rcases s.read_cases p name with ⟨hsame, _⟩ | ⟨q, sup, item, rest, hdue⟩
  · rw [hsame]
    exact refl s
  · rw [State.read_eq hdue]
    cases item with
    | finished => exact hkeep rest .finished
    | failure => exact hkeep rest .failed
    | dropped => exact (hkeep rest .reading).trans (emit _ rfl)
    | line bytes =>
        cases name with
        | stdout => exact (hkeep rest .reading).trans (logLine _ _)
        | stderr => exact (hkeep rest .reading).trans (handLine _ _ _)

/-- Entries about readers that failed are entries of the log. -/
theorem readerFailures (q : Process) : ∀ e ∈ State.readerFailures q, e.tells := by
  intro e he
  obtain ⟨_, _, rfl⟩ := List.mem_map.mp he
  rfl

end Tells

end Machine

end Datapack
