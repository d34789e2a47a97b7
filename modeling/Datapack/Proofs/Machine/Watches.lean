import Datapack.Machine.Step

/-! What goes on beside the tasks. A reader has nothing to do, or an item of an output is due to it;
the exit watch of a process has nothing to do, or its exit is due. Neither looks at the tasks. -/

namespace Datapack.Machine

/-- Whether an event concerns no task: a process, a reader or an exit watch goes on. -/
def Event.isBeside : Event → Bool
  | read _ _ | notice _ | output _ _ _ | exit _ _ | breakOutput _ _ | writeFile _ _ => true
  | _ => false

namespace State

open Text

variable {s : State} {p : ProcessId}

/-! ### Readers -/

/-- The reader of an output can take an item, which leaves the rest in the pipe. -/
structure ItemDue (s : State) (p : ProcessId) (name : OutputName) (q : Process) (sup : Supervisor)
    (item : PipeItem) (rest : Pipe) : Prop where
  process : s.processes[p]? = some q
  supervisor : q.owner.bind (s.supervisors[·]?) = some sup
  reading : (q.output name).reader = .reading
  next : (q.output name).pipe.next? sup.limit = some (item, rest)

/-- What is left of an output that was read, and its reader. -/
def keepOutput (s : State) (p : ProcessId) (name : OutputName) (rest : Pipe) (reader : Reader) :
    State :=
  s.modifyProcess p fun q => q.setOutput name ⟨rest, reader⟩

theorem read_cases (s : State) (p : ProcessId) (name : OutputName) :
    s.read p name = s ∧ (∀ q sup item rest, ¬s.ItemDue p name q sup item rest) ∨
      ∃ q sup item rest, s.ItemDue p name q sup item rest := by
  by_cases hdue : ∃ q sup item rest, s.ItemDue p name q sup item rest
  · exact .inr hdue
  · refine .inl ⟨?_, fun q sup item rest h => hdue ⟨q, sup, item, rest, h⟩⟩
    unfold read
    split
    · rfl
    · next q hq =>
        split
        · rfl
        · next sup hsup =>
            simp only
            split
            · rfl
            · next hreading =>
                split
                · rfl
                · next item rest hnext =>
                    exact absurd ⟨q, sup, item, rest, hq, hsup, Decidable.not_not.mp hreading, hnext⟩ hdue

theorem read_eq {name : OutputName} {q : Process} {sup : Supervisor} {item : PipeItem} {rest : Pipe}
    (h : s.ItemDue p name q sup item rest) :
    s.read p name =
      match item, name with
      | .finished, _ => s.keepOutput p name rest .finished
      | .failure, _ => s.keepOutput p name rest .failed
      | .dropped, _ => (s.keepOutput p name rest .reading).emit (overlongWarning name sup.limit)
      | .line bytes, .stdout =>
        (s.keepOutput p name rest .reading).logLine (String.ofList (decodeLossy bytes))
      | .line bytes, .stderr =>
        (s.keepOutput p name rest .reading).handLine sup.sink (String.ofList (decodeLossy bytes)) := by
  simp only [read, h.process, h.supervisor, h.reading, h.next, keepOutput]
  cases item <;> cases name <;> simp

/-! ### Exit watches -/

/-- The exit of a process is due to be reported: it was watched for, and all output was read. -/
structure ExitDue (s : State) (p : ProcessId) (q : Process) (code : Int) (i : SupervisorId)
    (sup : Supervisor) : Prop where
  process : s.processes[p]? = some q
  exited : q.code = some code
  owner : q.owner = some i
  supervisor : s.supervisors[i]? = some sup
  watched : q.watched
  ended : readersEnded q

/-- Nothing is read any more of a process whose exit is due. -/
theorem ExitDue.drained {q : Process} {code : Int} {i : SupervisorId} {sup : Supervisor}
    (h : s.ExitDue p q code i sup) : q.stderr.reader ≠ .reading := by
  have hended := h.ended
  simp only [readersEnded, Bool.and_eq_true, decide_eq_true_eq] at hended
  exact hended.2

/-- The exit of a process is not to be reported any more. -/
def unwatch (s : State) (p : ProcessId) : State :=
  s.modifyProcess p fun q => { q with watched := false }

/-- A supervisor has no process any more, if this was its process. -/
def forget (s : State) (i : SupervisorId) (p : ProcessId) : State :=
  s.modifySupervisor i fun q => if q.process = some p then { q with process := none } else q

/-- What is logged about an exit. -/
def exitWarning (code : Int) : Effect :=
  .warning ("Compiler exited with code " ++ toString code ++ "; diagnostics suspended until restart")

theorem noticeExit_cases (s : State) (p : ProcessId) :
    s.noticeExit p = s ∧ (∀ q code i sup, ¬s.ExitDue p q code i sup) ∨
      ∃ q code i sup, s.ExitDue p q code i sup := by
  by_cases hdue : ∃ q code i sup, s.ExitDue p q code i sup
  · exact .inr hdue
  · refine .inl ⟨?_, fun q code i sup h => hdue ⟨q, code, i, sup, h⟩⟩
    unfold noticeExit
    split
    · rfl
    · next q hq =>
        split
        · next code i hcode howner =>
            split
            · rfl
            · next sup hsup =>
                split
                · rfl
                · next hnot =>
                    simp only [Bool.or_eq_true, Bool.not_eq_true', not_or, Bool.not_eq_false] at hnot
                    exact absurd ⟨q, code, i, sup, hq, hcode, howner, hsup, hnot.1, hnot.2⟩ hdue
        · rfl

theorem noticeExit_eq {q : Process} {code : Int} {i : SupervisorId} {sup : Supervisor}
    (h : s.ExitDue p q code i sup) :
    s.noticeExit p =
      if sup.stopping then (s.unwatch p).emitAll (readerFailures q)
      else ((((s.unwatch p).emitAll (readerFailures q)).emit (exitWarning code)).forget i p).handExit
        sup.sink code := by
  simp only [noticeExit, h.process, h.exited, h.owner, h.supervisor, h.watched, h.ended, unwatch,
    forget, exitWarning, Bool.not_true, Bool.or_self, Bool.false_eq_true, if_false]

/-! ### Other tasks -/

/-- The same state with other tasks. -/
def withTasks (s : State) (ts : List Task) : State := { s with tasks := ts }

section

variable (s : State) (ts : List Task)

theorem emitAll_withTasks (es : List Effect) :
    (s.withTasks ts).emitAll es = (s.emitAll es).withTasks ts := by
  induction es generalizing s with
  | nil => rfl
  | cons e es ih => exact ih (s.emit e)

theorem modifySessionOf_withTasks (generation : Nat) (f : Session → Session) :
    (s.withTasks ts).modifySessionOf generation f =
      (s.modifySessionOf generation f).withTasks ts := by
  have hgeneration : (s.withTasks ts).generation = s.generation := rfl
  unfold modifySessionOf
  rw [hgeneration]
  split <;> rfl

theorem edit_withTasks {α : Type} (generation : Nat) (work : Session → Diagnostic.Ledger.Edit α) :
    (s.withTasks ts).edit generation work =
      ((s.edit generation work).1.withTasks ts, (s.edit generation work).2) := by
  have hsession : (s.withTasks ts).sessionOf? generation = s.sessionOf? generation := rfl
  unfold edit
  rw [hsession]
  cases s.sessionOf? generation with
  | none => rfl
  | some q => simp only [modifySessionOf_withTasks, emitAll_withTasks]

theorem handLine_withTasks (sink : Sink) (line : String) :
    (s.withTasks ts).handLine sink line = (s.handLine sink line).withTasks ts := by
  cases sink with
  | session generation =>
      have htaken : (s.withTasks ts).takeLine generation line =
          ((s.takeLine generation line).1.withTasks ts, (s.takeLine generation line).2) :=
        edit_withTasks s ts generation _
      simp only [handLine, htaken]
      cases (s.takeLine generation line).2 <;> rfl
  | recorder takes tellsExit =>
      have htrace : (s.withTasks ts).trace = s.trace := rfl
      simp only [handLine, htrace]
      cases takes s.trace line <;> rfl

theorem logLine_withTasks (line : String) :
    (s.withTasks ts).logLine line = (s.logLine line).withTasks ts := by
  simp only [logLine]
  split <;> rfl

variable {s ts}

theorem itemDue_withTasks {name : OutputName} {q : Process} {sup : Supervisor} {item : PipeItem}
    {rest : Pipe} : (s.withTasks ts).ItemDue p name q sup item rest ↔
      s.ItemDue p name q sup item rest :=
  ⟨fun h => ⟨h.process, h.supervisor, h.reading, h.next⟩,
    fun h => ⟨h.process, h.supervisor, h.reading, h.next⟩⟩

theorem exitDue_withTasks {q : Process} {code : Int} {i : SupervisorId} {sup : Supervisor} :
    (s.withTasks ts).ExitDue p q code i sup ↔ s.ExitDue p q code i sup :=
  ⟨fun h => ⟨h.process, h.exited, h.owner, h.supervisor, h.watched, h.ended⟩,
    fun h => ⟨h.process, h.exited, h.owner, h.supervisor, h.watched, h.ended⟩⟩

variable (s ts)

theorem read_withTasks (p : ProcessId) (name : OutputName) :
    (s.withTasks ts).read p name = (s.read p name).withTasks ts := by
  rcases s.read_cases p name with ⟨hsame, hnone⟩ | ⟨q, sup, item, rest, hdue⟩
  · rcases (s.withTasks ts).read_cases p name with ⟨hsame', _⟩ | ⟨q, sup, item, rest, hdue⟩
    · rw [hsame, hsame']
    · exact absurd (itemDue_withTasks.mp hdue) (hnone q sup item rest)
  · rw [read_eq hdue, read_eq (itemDue_withTasks.mpr hdue)]
    cases item with
    | finished | failure | dropped => rfl
    | line bytes =>
        cases name with
        | stdout => exact logLine_withTasks (s.keepOutput p .stdout rest .reading) ts _
        | stderr => exact handLine_withTasks (s.keepOutput p .stderr rest .reading) ts _ _

theorem handExit_withTasks (sink : Sink) (code : Int) :
    (s.withTasks ts).handExit sink code = (s.handExit sink code).withTasks ts := by
  cases sink with
  | session generation => simp only [handExit, clearStreamOf, modifySessionOf_withTasks]
  | recorder takes tellsExit =>
      simp only [handExit]
      split <;> rfl

theorem noticeExit_withTasks (p : ProcessId) :
    (s.withTasks ts).noticeExit p = (s.noticeExit p).withTasks ts := by
  rcases s.noticeExit_cases p with ⟨hsame, hnone⟩ | ⟨q, code, i, sup, hdue⟩
  · rcases (s.withTasks ts).noticeExit_cases p with ⟨hsame', _⟩ | ⟨q, code, i, sup, hdue⟩
    · rw [hsame, hsame']
    · exact absurd (exitDue_withTasks.mp hdue) (hnone q code i sup)
  · have hunwatched : ((s.withTasks ts).unwatch p).emitAll (readerFailures q) =
        ((s.unwatch p).emitAll (readerFailures q)).withTasks ts :=
      emitAll_withTasks (s.unwatch p) ts _
    rw [noticeExit_eq hdue, noticeExit_eq (exitDue_withTasks.mpr hdue), hunwatched]
    split
    · rfl
    · exact handExit_withTasks
        ((((s.unwatch p).emitAll (readerFailures q)).emit (exitWarning code)).forget i p) ts _ _

/-- What goes on beside the tasks is the same whatever tasks there are, and leaves them alone. -/
theorem step_withTasks {e : Event} (he : e.isBeside) :
    (s.withTasks ts).step e = (s.step e).withTasks ts := by
  cases e with
  | read p name => exact read_withTasks s ts p name
  | notice p => exact noticeExit_withTasks s ts p
  | breakOutput p name => rfl
  | output p name bytes | exit p code =>
      have halive : (s.withTasks ts).isAlive p = s.isAlive p := rfl
      simp only [step, halive]
      split <;> rfl
  | writeFile path bytes =>
      have hfiles : (s.withTasks ts).files = s.files := rfl
      simp only [step, hfiles]
      cases s.files.write path bytes <;> rfl
  | _ => cases he

theorem run_withTasks {events : List Event} (hevents : ∀ e ∈ events, e.isBeside) :
    (s.withTasks ts).run events = (s.run events).withTasks ts := by
  induction events generalizing s with
  | nil => rfl
  | cons e events ih =>
      rw [List.forall_mem_cons] at hevents
      have hrest := ih (s.step e) hevents.2
      rw [← step_withTasks s ts hevents.1] at hrest
      exact hrest

end

end State

end Datapack.Machine
