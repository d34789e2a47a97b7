import Datapack.Proofs.Machine.Alterations

/-! Sessions in which nothing is read of any compiler's error output. As long as no process is
created this stays so, whatever is asked for, and a stream that is empty stays empty. -/

namespace Datapack.Machine

open Diagnostic

/-- Nothing is read of the error output of a supervised process, and nothing is streamed. -/
structure State.Silent (s : State) : Prop where
  drained : ∀ q ∈ s.processes, q.owner.isSome → q.stderr.reader ≠ .reading
  stream : ∀ session, s.session = some session → session.ledger.stream = []

/-- Whether an event creates a supervised process. -/
def Event.Spawns (s : State) (e : Event) : Prop :=
  ∃ t i stage, e = .launched t (.ok ()) ∧ s.tasks[t]? = some (.launching i stage)

namespace State.Silent

variable {s : State}

theorem of_eq (h : s.Silent) {s' : State} (hprocesses : s'.processes = s.processes)
    (hsession : s'.session = s.session) : s'.Silent :=
  ⟨hprocesses ▸ h.drained, hsession ▸ h.stream⟩

section

variable (h : s.Silent)

include h

/-! ### Changes -/

theorem emit (e : Effect) : (s.emit e).Silent := h.of_eq rfl rfl

theorem emitAll (es : List Effect) : (s.emitAll es).Silent := by
  rw [State.emitAll_eq]
  exact h.of_eq rfl rfl

theorem modifySupervisor (i : SupervisorId) (f : Supervisor → Supervisor) :
    (s.modifySupervisor i f).Silent := h.of_eq rfl rfl

theorem modifySession {f : Session → Session}
    (hf : ∀ q, s.session = some q → q.ledger.stream = [] → (f q).ledger.stream = []) :
    (s.modifySession f).Silent := by
  refine ⟨h.drained, ?_⟩
  intro session hsession
  obtain ⟨q, hq, rfl⟩ := Option.map_eq_some_iff.mp hsession
  exact hf q hq (h.stream q hq)

theorem modifySessionOf (generation : Nat) {f : Session → Session}
    (hf : ∀ q, q.ledger.stream = [] → (f q).ledger.stream = []) :
    (s.modifySessionOf generation f).Silent := by
  unfold State.modifySessionOf
  split
  · exact h.modifySession fun q _ => hf q
  · exact h.of_eq rfl rfl

theorem modifyProcess (p : ProcessId) {f : Process → Process}
    (hf : ∀ q, (f q).owner = q.owner ∧
      (q.stderr.reader ≠ .reading → (f q).stderr.reader ≠ .reading)) :
    (s.modifyProcess p f).Silent := by
  refine ⟨?_, h.stream⟩
  intro q hq howner
  obtain ⟨n, hn, rfl⟩ := List.mem_iff_getElem.mp hq
  simp only [State.modifyProcess, List.length_modify] at hn
  simp only [State.modifyProcess, List.getElem_modify] at howner ⊢
  split at howner
  · next hp =>
      rw [if_pos hp]
      exact (hf _).2 (h.drained _ (List.getElem_mem hn) ((hf _).1 ▸ howner))
  · next hp =>
      rw [if_neg hp]
      exact h.drained _ (List.getElem_mem hn) howner

theorem cancelReaders (p : ProcessId) : (s.cancelReaders p).Silent := by
  refine h.modifyProcess p fun q => ⟨rfl, fun hq => ?_⟩
  simp [hq]

/-- A process may be created, if no supervisor looks after it. -/
theorem create {created : List Process} (hcreated : ∀ q ∈ created, q.owner = none) :
    (s.create created).Silent := by
  refine ⟨?_, h.stream⟩
  intro q hq howner
  rcases List.mem_append.mp hq with hq | hq
  · exact h.drained q hq howner
  · simp [hcreated q hq] at howner

/-! ### The background -/

theorem setOutput (p : ProcessId) (name : OutputName) {o : Process → Output}
    (ho : ∀ q, q.stderr.reader ≠ .reading → name = .stderr → (o q).reader ≠ .reading) :
    (s.modifyProcess p fun q => q.setOutput name (o q)).Silent := by
  refine h.modifyProcess p fun q => ⟨by cases name <;> rfl, fun hq => ?_⟩
  cases name with
  | stdout => exact hq
  | stderr => exact ho q hq rfl

/-- Only plain output is still read. -/
theorem read (p : ProcessId) (name : OutputName) : (s.read p name).Silent := by
  rcases s.read_cases p name with ⟨hsame, _⟩ | ⟨q, sup, item, rest, hdue⟩
  · rw [hsame]
    exact h
  · cases name with
    | stderr =>
        have howner : q.owner.isSome := by
          have hsup := hdue.supervisor
          cases howner : q.owner with
          | none => simp [howner] at hsup
          | some i => rfl
        exact absurd hdue.reading (h.drained q (List.mem_of_getElem? hdue.process) howner)
    | stdout =>
        have hkeep (reader : Reader) : (s.keepOutput p .stdout rest reader).Silent := by
          refine h.setOutput p .stdout ?_
          intro _ _ hname
          cases hname
        rw [State.read_eq hdue]
        cases item with
        | finished => exact hkeep .finished
        | failure => exact hkeep .failed
        | dropped => exact (hkeep .reading).emit _
        | line bytes =>
            simp only [State.logLine]
            split
            · exact hkeep .reading
            · exact (hkeep .reading).emit _

theorem handExit (sink : Sink) (code : Int) : (s.handExit sink code).Silent := by
  cases sink with
  | session generation =>
      refine State.Silent.modifySessionOf (h.modifySessionOf generation ?_) generation ?_
      · exact fun _ hq => hq
      · exact fun _ _ => rfl
  | recorder takes tellsExit =>
      simp only [State.handExit]
      split
      · exact h.emit _
      · exact h

theorem noticeExit (p : ProcessId) : (s.noticeExit p).Silent := by
  rcases s.noticeExit_cases p with ⟨hsame, _⟩ | ⟨q, code, i, sup, hdue⟩
  · rw [hsame]
    exact h
  · rw [State.noticeExit_eq hdue]
    have hunwatched : ((s.unwatch p).emitAll (State.readerFailures q)).Silent :=
      (h.modifyProcess p (f := fun q => { q with watched := false }) fun _ =>
        ⟨rfl, fun hq => hq⟩).emitAll _
    split
    · exact hunwatched
    · exact ((hunwatched.emit _).modifySupervisor _ _).handExit _ _

/-! ### Events -/

/-- What a task does ends no silence. -/
theorem alters {t : TaskId} {s' : State} (halters : Alters t s s') : s'.Silent := by
  induction halters with
  | refl => exact h
  | emit _ _ ih => exact ih.emit _
  | modifySession _ hf ih => exact ih.modifySession hf
  | cancelReaders _ p ih => exact ih.cancelReaders p
  | setTask _ _ ih | modifySupervisor _ _ _ ih | addSupervisor _ _ ih | modifyRunner _ _ _ ih
  | addRunner _ _ ih | files _ _ ih => exact ih.of_eq rfl rfl

/-- Nothing that happens ends the silence but the creation of a supervised process. -/
theorem step {e : Event} (he : ¬e.Spawns s) : (s.step e).Silent := by
  cases htask : e.task? with
  | some t =>
      obtain ⟨created, hcreated, halters⟩ := State.step_alters htask
      refine (h.create fun q hq => ?_).alters halters
      obtain ⟨rfl, ⟨i, stage, hlaunching⟩ | ⟨_, howner⟩⟩ := hcreated q hq
      · exact absurd ⟨t, i, stage, rfl, hlaunching⟩ he
      · exact howner
  | none =>
      cases e with
      | call request =>
          have hadded : ({ s with tasks := s.tasks ++ [.finished (.ok .nothing)] } : State).Silent :=
            h.of_eq rfl rfl
          exact hadded.alters (s.call_alters request)
      | read p name => exact h.read p name
      | notice p => exact h.noticeExit p
      | output p name bytes =>
          simp only [State.step]
          split
          · refine h.setOutput p name ?_
            rintro q hq rfl
            exact hq
          · exact h
      | exit p code =>
          simp only [State.step]
          split
          · refine h.modifyProcess p ?_
            exact fun _ => ⟨rfl, fun hq => hq⟩
          · exact h
      | breakOutput p name =>
          refine h.setOutput p name ?_
          rintro q hq rfl
          exact hq
      | writeFile path bytes =>
          simp only [State.step]
          split
          · exact h.of_eq rfl rfl
          · exact h
      | _ => cases htask

end

theorem run (h : s.Silent) {events : List Event}
    (hevents : ∀ before e after, events = before ++ e :: after → ¬e.Spawns (s.run before)) :
    (s.run events).Silent := by
  induction events generalizing s with
  | nil => exact h
  | cons e events ih =>
      refine ih (h.step (hevents [] e events rfl)) ?_
      intro before e' after hsplit
      exact hevents (e :: before) e' after (congrArg (e :: ·) hsplit)

end State.Silent

end Datapack.Machine
