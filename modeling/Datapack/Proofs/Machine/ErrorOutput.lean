import Datapack.Proofs.Machine.Handovers

/-! The error output of the one process of a supervisor, event by event. More is written to it, or its
reader takes what comes next; whatever else happens, what waits to be read stays, and no line is
handed over. -/

namespace Datapack.Machine

open Text

/-! ### What concerns no error output -/

/-- Between two states, what waits to be read of every error output stayed, and no line was handed
over. -/
structure State.Hushed (s s' : State) : Prop where
  pipes : s'.processes.map (·.stderr.pipe) = s.processes.map (·.stderr.pipe)
  handed : s'.handed = s.handed

namespace State.Hushed

theorem refl (s : State) : s.Hushed s := ⟨rfl, rfl⟩

theorem trans {s s' s'' : State} (h : s.Hushed s') (h' : s'.Hushed s'') : s.Hushed s'' :=
  ⟨h'.pipes.trans h.pipes, h'.handed.trans h.handed⟩

section

variable (s : State)

theorem emitAll {es : List Effect} (hes : handedLines es = []) : s.Hushed (s.emitAll es) := by
  refine ⟨?_, ?_⟩
  · rw [State.emitAll_eq]
  · rw [State.handed_emitAll, hes, List.append_nil]

theorem emit {e : Effect} (he : handedLines [e] = []) : s.Hushed (s.emit e) := emitAll s he

theorem modifySupervisor (i : SupervisorId) (f : Supervisor → Supervisor) :
    s.Hushed (s.modifySupervisor i f) := ⟨rfl, rfl⟩

theorem modifyProcess (p : ProcessId) {f : Process → Process}
    (hf : ∀ q, (f q).stderr.pipe = q.stderr.pipe) : s.Hushed (s.modifyProcess p f) := by
  refine ⟨?_, rfl⟩
  refine List.ext_getElem? fun n => ?_
  simp only [State.modifyProcess, List.getElem?_map, List.getElem?_modify]
  split <;> simp [Function.comp_def, hf]

variable (p : ProcessId)

theorem cancelReaders : s.Hushed (s.cancelReaders p) := by
  refine modifyProcess s p fun q => ?_
  simp only
  split <;> rfl

/-! ### The background -/

theorem logLine (line : String) : s.Hushed (s.logLine line) := by
  unfold State.logLine
  simp only
  split
  · exact refl s
  · exact emit s rfl

theorem handExit (sink : Sink) (code : Int) : s.Hushed (s.handExit sink code) := by
  unfold State.handExit
  cases sink with
  | session generation =>
      simp only [State.clearStreamOf, State.modifySessionOf]
      repeat' split
      all_goals exact ⟨rfl, rfl⟩
  | recorder takes tellsExit =>
      simp only
      split
      · exact emit s rfl
      · exact refl s

theorem noticeExit : s.Hushed (s.noticeExit p) := by
  rcases s.noticeExit_cases p with ⟨hsame, _⟩ | ⟨q, code, i, sup, hdue⟩
  · rw [hsame]
    exact refl s
  · rw [State.noticeExit_eq hdue]
    have hfailures : handedLines (State.readerFailures q) = [] := by
      refine handedLines_eq_nil fun e he => ?_
      obtain ⟨_, _, rfl⟩ := List.mem_map.mp he
      rfl
    have hunwatched : s.Hushed ((s.unwatch p).emitAll (State.readerFailures q)) :=
      (modifyProcess s p (f := fun q => { q with watched := false }) fun _ => rfl).trans
        (emitAll _ hfailures)
    split
    · exact hunwatched
    · exact ((hunwatched.trans (emit _ rfl)).trans (modifySupervisor _ _ _)).trans (handExit _ _ _)

theorem read_stdout : s.Hushed (s.read p .stdout) := by
  rcases s.read_cases p .stdout with ⟨hsame, _⟩ | ⟨q, sup, item, rest, hdue⟩
  · rw [hsame]
    exact refl s
  · have hkeep (reader : Reader) : s.Hushed (s.keepOutput p .stdout rest reader) :=
      modifyProcess s p fun _ => rfl
    rw [State.read_eq hdue]
    cases item with
    | finished => exact hkeep .finished
    | failure => exact hkeep .failed
    | dropped => exact (hkeep .reading).trans (emit _ rfl)
    | line bytes => exact (hkeep .reading).trans (logLine _ _)

end

/-- What a task does concerns no error output. -/
theorem alters {t : TaskId} {s s' : State} (h : Alters t s s') : s.Hushed s' := by
  refine ⟨?_, h.handed_eq⟩
  induction h with
  | refl => rfl
  | @cancelReaders s' _ p ih => exact (cancelReaders s' p).pipes.trans ih
  | emit _ _ ih | setTask _ _ ih | modifySupervisor _ _ _ ih | addSupervisor _ _ ih
  | modifyRunner _ _ _ ih | addRunner _ _ ih | modifySession _ _ ih | files _ _ ih => exact ih

theorem call (s : State) (request : Request) : s.Hushed (s.call request) := by
  have hadded : s.Hushed { s with tasks := s.tasks ++ [.finished (.ok .nothing)] } := ⟨rfl, rfl⟩
  exact hadded.trans (alters (s.call_alters request))

end State.Hushed

/-! ### Events -/

/-- Whether an event is a step of the reader of the error output of the first process. -/
def Event.readsStderr : Event → Bool
  | .read p .stderr => p == 0
  | _ => false

/-- The error output of the first process. -/
def State.stderr (s : State) : Output := (s.processes[0]?.map (·.stderr)).getD {}

/-- What an event does to the error output of the first process, and what is handed over: its reader
takes the next item, or something is written and nothing is handed over. Once the output has ended,
nothing is written. -/
inductive Hears (limit : Nat) (s : State) (e : Event) (s' : State) : Prop where
  | reads {item : PipeItem} {pipe : Pipe} (event : e = .read 0 .stderr)
      (reading : s.stderr.reader = .reading) (next : s.stderr.pipe.next? limit = some (item, pipe))
      (after : s'.stderr = ⟨pipe, Output.Reads.readerAfter item⟩)
      (handed : s'.handed = s.handed ++ Output.Reads.handedBy item)
  | writes (buffer : s'.stderr.pipe.buffer = s.stderr.pipe.buffer ++ e.errorOutput s)
      (ended : s.stderr.pipe.ended → s'.stderr.pipe.ended ∧ e.errorOutput s = [])
      (rests : e.readsStderr → s.stderr.reader = .reading → s.stderr.pipe.next? limit = none)
      (handed : s'.handed = s.handed)

theorem State.Hushed.stderr {s s' : State} (h : s.Hushed s') :
    s'.stderr.pipe = s.stderr.pipe := by
  have hpipe := congrArg (·[0]?) h.pipes
  simp only [List.getElem?_map] at hpipe
  unfold State.stderr
  cases hs : s.processes[0]? <;> cases hs' : s'.processes[0]? <;> simp_all

/-- An event that concerns no error output. -/
theorem Hears.of_hushed {limit : Nat} {s s' : State} {e : Event} (h : s.Hushed s')
    (hwrites : e.errorOutput s = []) (hother : e.readsStderr = false) : Hears limit s e s' := by
  refine .writes ?_ (fun hended => ⟨?_, hwrites⟩) (fun hreads => ?_) h.handed
  · rw [h.stderr, hwrites, List.append_nil]
  · rw [h.stderr]
    exact hended
  · rw [hother] at hreads
    cases hreads

namespace Tends

variable {c : Supervisor} {earlier s : State} {asked : List Request} {written : Bytes}
  {sup : Supervisor} {q : Process}

section

variable (h : Tends c earlier none asked written s sup q)

include h

theorem stderr_eq : s.stderr = q.stderr := by simp [State.stderr, h.processes]

/-- A task that goes on concerns no error output: none of them waits for a process to be created. -/
theorem hushed_of_task {e : Event} {t : TaskId} (he : e.task? = some t) : s.Hushed (s.step e) := by
  obtain ⟨created, hcreated, halters⟩ := State.step_alters he
  have hnone : created = [] := by
    rw [List.eq_nil_iff_forall_not_mem]
    intro q' hq'
    obtain ⟨-, ⟨i, stage, htask⟩ | ⟨⟨w, htask⟩, -⟩⟩ := hcreated q' hq'
    all_goals
      have ht : t < asked.length := h.asks ▸ (List.getElem?_eq_some_iff.mp htask).1
      have herrand := h.errands (List.getElem?_eq_getElem ht) htask nofun
      generalize asked[t] = request at herrand
      cases herrand
  rw [hnone, State.create_nil] at halters
  exact .alters halters

theorem hears_output (p : ProcessId) (name : OutputName) (bytes : Bytes) :
    Hears c.limit s (.output p name bytes) (s.step (.output p name bytes)) := by
  by_cases halive : s.isAlive p
  · obtain ⟨rfl, hcode⟩ := h.of_isAlive halive
    simp only [State.step, halive, if_true]
    cases name with
    | stdout => exact .of_hushed (.modifyProcess s 0 fun _ => rfl) rfl rfl
    | stderr =>
        have hopen : s.stderr.pipe.ended = false := by
          rw [h.stderr_eq, h.ends, Option.isSome_eq_false_iff]
          exact hcode
        refine .writes ?_ (fun hended => ?_) (fun hreads => by cases hreads) rfl
        · simp [State.stderr, State.modifyProcess, h.processes, Process.setOutput,
            Pipe.feed, Event.errorOutput, halive]
        · rw [hopen] at hended
          cases hended
  · simp only [State.step, halive]
    refine .of_hushed (.refl s) ?_ rfl
    cases p <;> cases name <;> simp_all [Event.errorOutput]

theorem hears_exit (p : ProcessId) (code : Int) :
    Hears c.limit s (.exit p code) (s.step (.exit p code)) := by
  by_cases halive : s.isAlive p
  · obtain ⟨rfl, _⟩ := h.of_isAlive halive
    simp only [State.step, halive, if_true]
    refine .writes ?_ (fun _ => ⟨?_, rfl⟩) (fun hreads => by cases hreads) rfl
    · simp [State.stderr, State.modifyProcess, h.processes, Event.errorOutput]
    · simp [State.stderr, State.modifyProcess, h.processes]
  · simp only [State.step, halive]
    exact .of_hushed (.refl s) rfl rfl

theorem hears_breakOutput (p : ProcessId) (name : OutputName) :
    Hears c.limit s (.breakOutput p name) (s.step (.breakOutput p name)) := by
  refine .writes ?_ (fun hended => ⟨?_, rfl⟩) (fun hreads => by cases hreads) rfl
  all_goals
    cases p <;> cases name <;>
      simp_all [State.step, State.stderr, State.modifyProcess, h.processes, Process.setOutput,
        Event.errorOutput]

theorem hears_read {takes : Recorder} {tellsExit : Bool}
    (hsink : c.sink = .recorder takes tellsExit) (p : ProcessId) (name : OutputName) :
    Hears c.limit s (.read p name) (s.step (.read p name)) := by
  cases name with
  | stdout => exact .of_hushed (.read_stdout s p) rfl rfl
  | stderr =>
      cases p with
      | succ p =>
          have hnone : s.step (.read (p + 1) .stderr) = s := by
            simp [State.step, State.read, h.processes]
          rw [hnone]
          exact .of_hushed (.refl s) rfl rfl
      | zero =>
          simp only [State.step]
          rcases h.read_stderr_cases hsink with
            ⟨hsame, hrests⟩ | ⟨item, pipe, es, hreading, hnext, hlines, _, heq⟩
          · rw [hsame]
            rw [← h.stderr_eq] at hrests
            exact .writes (List.append_nil _).symm (fun hended => ⟨hended, rfl⟩) (fun _ => hrests) rfl
          · rw [← h.stderr_eq] at hreading hnext
            refine .reads rfl hreading hnext ?_ ?_
            · rw [heq]
              simp [State.stderr, State.emitAll_eq, State.modifyProcess, h.processes,
                Process.setOutput]
            · rw [heq, State.handed_emitAll, hlines]
              rfl

/-- Whatever happens, more is written to the error output, or its reader takes the next item. -/
theorem hears {takes : Recorder} {tellsExit : Bool}
    (hsink : c.sink = .recorder takes tellsExit) (e : Event) :
    Hears c.limit s e (s.step e) := by
  cases e with
  | call request => exact .of_hushed (.call s request) rfl rfl
  | proceed t | launched t _ | flushed t _ | exitSeen t | timeout t | waitFailed t _ =>
      exact .of_hushed (h.hushed_of_task rfl) rfl rfl
  | read p name => exact h.hears_read hsink p name
  | notice p => exact .of_hushed (.noticeExit s p) rfl rfl
  | output p name bytes => exact h.hears_output p name bytes
  | exit p code => exact h.hears_exit p code
  | breakOutput p name => exact h.hears_breakOutput p name
  | writeFile path bytes =>
      refine .of_hushed ?_ rfl rfl
      simp only [State.step]
      split
      · exact ⟨rfl, rfl⟩
      · exact .refl s

end

end Tends

end Datapack.Machine
