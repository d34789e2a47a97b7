import Datapack.Machine.Step
import Datapack.Proofs.Ledger.Operations

/-! What the machine does to diagnostics and to the input of a compiler, as equations between
states: a pass is opened, a line is taken, a command is written. -/

namespace Datapack.Machine

@[simp] theorem Process.stderr_output (p : Process) : p.output .stderr = p.stderr := rfl

namespace State

open Diagnostic Text

/-! ### Effects -/

theorem emitAll_eq (s : State) (es : List Effect) :
    s.emitAll es = { s with trace := s.trace ++ es.toArray } := by
  induction es generalizing s with
  | nil => simp [emitAll]
  | cons e es ih =>
      have h := ih (s.emit e)
      simp only [emitAll, List.foldl_cons] at h ⊢
      rw [h]
      simp [emit]

/-! ### Diagnostics -/

/-- What is made of the result of work changes nothing that the work does. -/
theorem edit_map {α β : Type} (s : State) (generation : Nat) (work : Session → Ledger.Edit α)
    (f : α → β) : s.edit generation (fun q => f <$> work q) = s.edit generation work := by
  have hmap (r : Except Fault α) : (r.map f).map (fun _ => ()) = r.map fun _ => () := by
    cases r <;> rfl
  unfold edit
  cases s.sessionOf? generation with
  | none => rfl
  | some q => simp only [Ledger.Edit.run_map, hmap]

/-- Has an operation done on the diagnostics of a session. -/
def submit (s : State) (generation : Nat) (op : Session → Operation) : State × Except Fault Unit :=
  s.edit generation fun q => (op q).work q.publisher

theorem takeLine_eq_submit (s : State) (generation : Nat) (line : String) :
    s.takeLine generation line =
      s.submit generation fun q => .takeLine q.documents s.files line :=
  (s.edit_map generation _ _).symm

theorem openPass_eq_submit (s : State) (extra : List String) :
    s.openPass extra = s.submit s.generation fun _ => .openPass extra :=
  (s.edit_map s.generation _ _).symm

theorem enterReport_eq_submit (s : State) (folder : Path) (report : Option Report) :
    s.enterReport folder report =
      s.submit s.generation fun q => .enterReport q.documents s.files folder report :=
  (s.edit_map s.generation _ _).symm

theorem closeDocument_eq_submit (s : State) (uri : String) :
    s.closeDocument uri = s.submit s.generation fun _ => .close uri :=
  (s.edit_map s.generation _ _).symm

theorem modifySessionOf_generation (s : State) (f : Session → Session) :
    s.modifySessionOf s.generation f = s.modifySession f :=
  if_pos rfl

/-- An operation changes at most the ledger of its session, and it publishes and logs. -/
theorem submit_cases (s : State) (generation : Nat) (op : Session → Operation) :
    (s.sessionOf? generation = none ∧ s.submit generation op = (s, .ok ())) ∨
    ∃ q t es result, s.sessionOf? generation = some q ∧
      ((op q).work q.publisher).run q.ledger = (t, es, result) ∧
      s.submit generation op =
        ((s.modifySessionOf generation fun q => { q with ledger := t }).emitAll es,
          result.map fun _ => ()) ∧
      ∀ e ∈ es, (∃ entry, e = .log entry) ∨ ∃ p, e = .publish p := by
  cases hq : s.sessionOf? generation with
  | none => exact .inl ⟨rfl, by simp [submit, edit, hq]⟩
  | some q =>
      refine .inr ⟨q, _, _, _, rfl, rfl, by simp [submit, edit, hq], ?_⟩
      exact (op q).work_effects q.publisher q.ledger

theorem edit_eq {α : Type} {s : State} {session : Session} (hs : s.session = some session)
    (work : Session → Ledger.Edit α) {t : Ledger} {es : List Effect} {result : Except Fault α}
    (hrun : (work session).run session.ledger = (t, es, result)) :
    s.edit s.generation work =
      ({ s with session := some { session with ledger := t }, trace := s.trace ++ es.toArray },
        result.map fun _ => ()) := by
  have hq : s.sessionOf? s.generation = some session := (if_pos rfl).trans hs
  simp only [edit, hq, hrun, modifySessionOf_generation, modifySession, emitAll_eq, hs,
    Option.map_some]

/-- A publisher that takes empty lists lets every pass be opened. -/
theorem openPass_eq {s : State} {session : Session} (hs : s.session = some session)
    (hclears : ∀ u, session.publisher ⟨u, []⟩ = .ok ()) (extra : List String) :
    s.openPass extra =
      ({ s with
          session := some { session with
            ledger := (session.ledger.perform (.openPass extra)).after }
          trace := s.trace ++ (session.ledger.passPlan extra).effects.toArray }, .ok ()) := by
  have htaken : ∀ q ∈ publications (session.ledger.passPlan extra).effects,
      session.publisher q = .ok () := by
    simp only [Ledger.passPlan, publications_map_publish]
    intro q hq
    obtain ⟨u, _, rfl⟩ := List.mem_map.mp hq
    exact hclears u
  have hrun := Ledger.run_work_of_taken (session.ledger.plan_openPass extra) htaken
  rw [openPass_eq_submit, submit, edit_eq hs _ hrun]
  rfl

/-- A line is entered whatever becomes of what it publishes, and nothing is written. -/
theorem takeLine_eq {s : State} {session : Session} (hs : s.session = some session)
    (line : String) :
    ∃ (effects : List Effect) (result : Except Fault Unit),
      s.takeLine s.generation line =
        ({ s with
            session := some { session with
              ledger := (session.ledger.perform (.takeLine session.documents s.files line)).after }
            trace := s.trace ++ effects.toArray }, result) ∧
      ∀ q text, Effect.write q text ∉ effects := by
  have hafter := session.ledger.after_work_line session.publisher session.documents s.files line
  have heffects := (Operation.takeLine session.documents s.files line).work_effects
    session.publisher session.ledger
  rcases hrun : ((Operation.takeLine session.documents s.files line).work session.publisher).run
    session.ledger with ⟨t, es, result⟩
  rw [hrun] at hafter heffects
  obtain rfl : t = _ := hafter
  refine ⟨es, result.map fun _ => (), ?_, fun q text hmem => ?_⟩
  · rw [takeLine_eq_submit, submit, edit_eq hs _ hrun]
  · rcases heffects _ hmem with ⟨_, h⟩ | ⟨_, h⟩ <;> cases h

theorem handLine_eq {s : State} {session : Session} (hs : s.session = some session)
    (line : String) :
    ∃ effects : List Effect,
      s.handLine (.session s.generation) line =
        { s with
          session := some { session with
            ledger := (session.ledger.perform (.takeLine session.documents s.files line)).after }
          trace := s.trace ++ effects.toArray } ∧
      ∀ q text, Effect.write q text ∉ effects := by
  obtain ⟨effects, result, htake, hwrites⟩ := takeLine_eq hs line
  cases result with
  | ok _ => exact ⟨effects, by simp [handLine, htake], hwrites⟩
  | error e =>
      refine ⟨effects ++ [.failure "Error handling compiler output line" e], ?_, ?_⟩
      · simp [handLine, htake, emit]
      · simpa [Effect.failure] using hwrites

/-! ### Commands -/

/-- A command whose compiler runs is written at once if the write lock is free. -/
theorem beginSend_eq {s : State} {i : SupervisorId} {sup : Supervisor} {p : ProcessId}
    (hsup : s.supervisors[i]? = some sup) (hp : sup.process = some p) (halive : s.isAlive p)
    (hfree : sup.writeLock.owner = none) (t : TaskId) (command : String) (stage : SendStage) :
    s.beginSend t i command stage =
      { s with
        supervisors := s.supervisors.modify i fun q =>
          { q with writeLock := q.writeLock.acquire t }
        tasks := s.tasks.set t (.flushing i p command stage)
        trace := (s.trace.push (.debug ("compiler <- " ++ command))).push
          (.write p (command ++ commandEnd)) } := by
  have hacquired : (s.supervisors.modify i fun q =>
      { q with writeLock := q.writeLock.acquire t })[i]? =
        some { sup with writeLock := sup.writeLock.acquire t } := by
    simp [hsup]
  have hturn : (sup.writeLock.acquire t).owner = some t := by simp [Lock.acquire, hfree]
  have hruns : (s.processes[p]?.map Process.isAlive).getD false = true := halive
  simp [beginSend, modifySupervisor, hacquired, hturn, writeCommand, aliveProcess?, hp, isAlive,
    hruns, emit, setTask]

end State

end Datapack.Machine
