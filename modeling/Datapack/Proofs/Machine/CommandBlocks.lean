import Datapack.Proofs.Machine.LateLines
import Datapack.Proofs.Machine.ResidentSteps

/-! What a session says to its compilers and to its client. A pass first clears what carried
diagnostics, then it writes its commands, with no command of another pass in between, and a save
whose second command was taken is followed by the one message to the client. -/

namespace Datapack

/-- Whether an effect is a command for a process or a message to the client. -/
def Effect.speaks : Effect → Bool
  | write _ _ | notify _ => true
  | _ => false

namespace Machine

open Diagnostic Text

/-- Effects without a command and without a message to the client. -/
def Unspoken (es : List Effect) : Prop := ∀ e ∈ es, e.speaks = false

theorem Unspoken.append {es es' : List Effect} (h : Unspoken es) (h' : Unspoken es') :
    Unspoken (es ++ es') := by
  intro e he
  rcases List.mem_append.mp he with he | he
  · exact h e he
  · exact h' e he

theorem Unspoken.of_tells {es : List Effect} (h : ∀ e ∈ es, e.tells) : Unspoken es := by
  intro e he
  have htells := h e he
  cases e <;> first | rfl | cases htells

/-! ### Journals -/

/-- Something that was done, and the task that did it. -/
structure Act where
  actor : Option TaskId
  effect : Effect

/-- A command, and the task that wrote it. -/
structure Command where
  writer : Option TaskId
  process : ProcessId
  text : String
deriving DecidableEq

namespace State

/-- What an event does, in order. -/
def effects (s : State) (e : Event) : List Effect := (s.step e).trace.toList.drop s.trace.size

/-- The task that runs at an event: a new one, or one that waited. -/
def actor? (s : State) : Event → Option TaskId
  | .call _ => some s.tasks.length
  | e => e.task?

/-- Everything that is done in a run. -/
def journal (s : State) : List Event → List Act
  | [] => []
  | e :: events => (s.effects e).map (.mk (s.actor? e)) ++ (s.step e).journal events

end State

def Act.command? (d : Act) : Option Command :=
  match d.effect with
  | .write process text => some ⟨d.actor, process, text⟩
  | _ => none

/-- The commands that were written, in order. -/
def commands (journal : List Act) : List Command := journal.filterMap Act.command?

def Act.reloads (d : Act) : Bool := d.effect = .notify .reloadServer

/-- The tasks that told the client to reload, in order. -/
def reloads (journal : List Act) : List (Option TaskId) :=
  (journal.filter Act.reloads).map (·.actor)

@[simp] theorem commands_append (journal later : List Act) :
    commands (journal ++ later) = commands journal ++ commands later := by
  simp [commands]

@[simp] theorem reloads_append (journal later : List Act) :
    reloads (journal ++ later) = reloads journal ++ reloads later := by
  simp [reloads]

theorem Unspoken.commands_eq {es : List Effect} (h : Unspoken es) (actor : Option TaskId) :
    commands (es.map (.mk actor)) = [] := by
  rw [commands, List.filterMap_eq_nil_iff]
  intro d hd
  obtain ⟨e, he, rfl⟩ := List.mem_map.mp hd
  have hspeaks := h e he
  cases e <;> first | rfl | cases hspeaks

theorem Unspoken.reloads_eq {es : List Effect} (h : Unspoken es) (actor : Option TaskId) :
    reloads (es.map (.mk actor)) = [] := by
  rw [reloads, List.map_eq_nil_iff, List.filter_eq_nil_iff]
  intro d hd
  obtain ⟨e, he, rfl⟩ := List.mem_map.mp hd
  have hspeaks := h e he
  have hne : e ≠ .notify .reloadServer := by
    rintro rfl
    cases hspeaks
  simpa [Act.reloads] using hne

/-! ### Blocks -/

/-- The commands of a pass: it asks for errors, and then perhaps for a compile. -/
structure Block where
  pass : TaskId
  process : ProcessId
  output : Option String

namespace Block

def commands (b : Block) : List Command :=
  ⟨b.pass, b.process, State.errorsCommand ++ State.commandEnd⟩ ::
    b.output.toList.map fun path =>
      ⟨b.pass, b.process, State.compileCommand path ++ State.commandEnd⟩

/-- The commands for one process are the blocks for it. -/
theorem filter_flatMap_commands (p : ProcessId) (blocks : List Block) :
    (blocks.flatMap commands).filter (·.process = p) =
      (blocks.filter (·.process = p)).flatMap commands := by
  induction blocks with
  | nil => rfl
  | cons b blocks ih =>
      have hsame : ∀ c ∈ b.commands, c.process = b.process := by
        simp [commands]
      rw [List.flatMap_cons, List.filter_append, ih]
      by_cases hp : b.process = p
      · have hall : b.commands.filter (·.process = p) = b.commands := by
          rw [List.filter_eq_self]
          exact fun c hc => by simp [hsame c hc, hp]
        simp [hp, hall]
      · have hnone : b.commands.filter (·.process = p) = [] := by
          rw [List.filter_eq_nil_iff]
          exact fun c hc => by simp [hsame c hc, hp]
        simp [hp, hnone]

end Block

/-! ### What a task says on its way -/

/-- A command as it is seen: an entry of the log, and the text. -/
def commanded (p : ProcessId) (command : String) : List Effect :=
  [.debug ("compiler <- " ++ command), .write p (command ++ State.commandEnd)]

theorem compileCommand_ne_errorsCommand (path : String) :
    State.compileCommand path ≠ State.errorsCommand := by
  intro h
  have htext := congrArg String.toList h
  simp [State.compileCommand, State.errorsCommand] at htext

/-- What the task of a request says in a session, from where it stood to where it stands after an
event. -/
inductive Speaks (e : Event) (t : TaskId) (request : Request) (q : Session) :
    Task → Task → List Effect → Prop where
  | silent {task task' : Task} {told : List Effect} (quiet : task.isFlushing = false)
      (quiet' : task'.isFlushing = false) (unspoken : Unspoken told) :
      Speaks e t request q task task' told
  | opens {task : Task} {i : SupervisorId} {p : ProcessId} {stage : SendStage}
      {told : List Effect} (quiet : task.isFlushing = false)
      (sends : Sends request stage State.errorsCommand) (unspoken : Unspoken told) :
      Speaks e t request q task (.flushing i p State.errorsCommand stage)
        (told ++ (q.ledger.passPlan request.cleared).effects ++ commanded p State.errorsCommand)
  | compiles {i : SupervisorId} {p : ProcessId} {path : String} {stage stage' : SendStage}
      {told : List Effect} (sends : Sends request stage' (State.compileCommand path))
      (recorded : ∀ uri, request = .save uri → q.outputPath = some path ∧ path ≠ "")
      (unspoken : Unspoken told) :
      Speaks e t request q (.flushing i p State.errorsCommand stage)
        (.flushing i p (State.compileCommand path) stage')
        (told ++ commanded p (State.compileCommand path))
  | reloads {uri path : String} {i : SupervisorId} {p : ProcessId} {told : List Effect}
      (r : Except Fault Answer) (saved : request = .save uri) (done : e = .flushed t .done)
      (unspoken : Unspoken told) :
      Speaks e t request q (.flushing i p (State.compileCommand path) .saveOutput) (.finished r)
        (told ++ [.notify .reloadServer])
  | ends {i : SupervisorId} {p : ProcessId} {command : String} {stage : SendStage}
      {told : List Effect} (r : Except Fault Answer) (sends : Sends request stage command)
      (silent : stage = .saveOutput → e ≠ .flushed t .done) (unspoken : Unspoken told) :
      Speaks e t request q (.flushing i p command stage) (.finished r) told

theorem Tells.unspoken {s s' : State} (h : Tells s s') :
    ∃ told : List Effect, s'.trace = s.trace ++ told.toArray ∧ Unspoken told := by
  obtain ⟨es, htrace, htells⟩ := h.trace
  exact ⟨es, htrace, .of_tells htells⟩

namespace Moves

variable {t : TaskId} {request : Request} {task : Task} {s s' : State}

theorem unspoken (h : Moves t request task s s') :
    ∃ told : List Effect, s'.trace = s.trace ++ told.toArray ∧ Unspoken told := by
  cases h with
  | tell htells _ _ => exact htells.unspoken
  | signal p signal =>
      exact ⟨[.signal p signal], by simp [State.emit], by simp [Unspoken, Effect.speaks]⟩
  | _ =>
      refine ⟨[], ?_, by simp [Unspoken]⟩
      simp [State.modifySession, State.cancelReaders, State.modifyProcess, State.halt,
        State.modifySupervisor, State.detach, State.setHandle]

theorem store?_eq (h : Moves t request task s s') (hjob : request.job? ≠ none) :
    s'.store? = s.store? := by
  have hkept {f : Session → Session} (hf : ∀ q, (f q).ledger = q.ledger) :
      (s.modifySession f).store? = s.store? := by
    simp [State.store?, State.modifySession, Function.comp_def, hf]
  cases h with
  | tell _ _ hkept => exact hkept.resolve_left hjob
  | root root => exact hkept fun _ => rfl
  | record path => exact hkept fun _ => rfl
  | acquire => exact hkept fun _ => rfl
  | drop _ _ => exact hkept fun _ => rfl
  | _ => rfl

theorem outputPath_eq (h : Moves t request task s s') (hjob : request.job? ≠ none) :
    s'.outputPath = s.outputPath := by
  have hkept {f : Session → Session} (hf : ∀ q, (f q).outputPath = q.outputPath) :
      (s.modifySession f).outputPath = s.outputPath := s.bind_modifySession hf
  cases h with
  | tell htells _ _ => exact htells.outputPath_eq
  | root root => exact hkept fun _ => rfl
  | record path hunasked => exact absurd hunasked hjob
  | acquire => exact hkept fun _ => rfl
  | drop _ _ => exact hkept fun _ => rfl
  | _ => rfl

/-- On its way a job leaves alone what was published, and where saves are compiled to. -/
theorem session_eq (h : Moves t request task s s') (hjob : request.job? ≠ none) {q q' : Session}
    (hq : s.session = some q) (hq' : s'.session = some q') :
    q'.ledger.store = q.ledger.store ∧ q'.outputPath = q.outputPath := by
  have hstore := h.store?_eq hjob
  have hpath := h.outputPath_eq hjob
  simp only [State.store?, State.outputPath, hq, hq', Option.map_some, Option.bind_some,
    Option.some.injEq] at hstore hpath
  exact ⟨hstore, hpath⟩

end Moves

theorem Sends.job?_ne_none {request : Request} {stage : SendStage} {command : String}
    (h : Sends request stage command) : request.job? ≠ none := by
  cases h <;> exact nofun

/-- What a pass clears, and where it compiles to, was settled when its task began to run. -/
theorem Speaks.of_later {e : Event} {t : TaskId} {request : Request} {task task' : Task}
    {q q' : Session} {told es : List Effect} (h : Speaks e t request q' task task' es)
    (hsame : request.job? ≠ none →
      q'.ledger.store = q.ledger.store ∧ q'.outputPath = q.outputPath)
    (htold : Unspoken told) : Speaks e t request q task task' (told ++ es) := by
  cases h with
  | silent hq hq' hes => exact .silent hq hq' (htold.append hes)
  | opens hq hsends hes =>
      have hclears : (q'.ledger.passPlan request.cleared).effects =
          (q.ledger.passPlan request.cleared).effects := by
        simp [Ledger.passPlan, hsame hsends.job?_ne_none]
      rw [hclears, ← List.append_assoc, ← List.append_assoc]
      exact .opens hq hsends (htold.append hes)
  | compiles hsends hrecorded hes =>
      rw [(hsame hsends.job?_ne_none).2] at hrecorded
      rw [← List.append_assoc]
      exact .compiles hsends hrecorded (htold.append hes)
  | reloads r hsaved hdone hes =>
      rw [← List.append_assoc]
      exact .reloads r hsaved hdone (htold.append hes)
  | ends r hsends hsilent hes => exact .ends r hsends hsilent (htold.append hes)

namespace State

/-- A pass that the client lets be opened clears all that it is to clear. -/
theorem trace_of_openPass {s s' : State} {q : Session} {extra : List String}
    (hs : s.session = some q) (h : s.openPass extra = (s', .ok ())) :
    s'.trace = s.trace ++ (q.ledger.passPlan extra).effects.toArray := by
  rcases hrun : (Ledger.openPass q.publisher extra).run q.ledger with ⟨ledger, es, result⟩
  rw [openPass, edit_eq hs (fun q => Ledger.openPass q.publisher extra) hrun] at h
  obtain ⟨rfl, hresult⟩ := Prod.mk.inj h
  cases result with
  | error e => cases hresult
  | ok _ =>
      rw [Ledger.run_openPass] at hrun
      obtain ⟨_, rfl, _⟩ := Ledger.commit_ok hrun
      rfl

theorem trace_send (s : State) (t : TaskId) (i : SupervisorId) (p : ProcessId) (command : String)
    (stage : SendStage) : (s.send t i p command stage).trace =
      s.trace ++ (commanded p command).toArray :=
  congrArg State.trace (emitAll_eq s (commanded p command))

theorem unspoken_killSession (s : State) :
    ∃ told : List Effect, s.killSession.trace = s.trace ++ told.toArray ∧ Unspoken told := by
  cases hhandle : s.handle with
  | none =>
      rw [killSession_of_none hhandle]
      exact ⟨[], by simp [clearStream, modifySession], by simp [Unspoken]⟩
  | some i =>
      rcases killSession_of_some hhandle with ⟨p, _, hkill⟩ | ⟨_, hkill⟩ <;> rw [hkill]
      · exact ⟨[.signal p .kill], by simp [clearStream, modifySession, setHandle, emit, halt,
          modifySupervisor], by simp [Unspoken, Effect.speaks]⟩
      · exact ⟨[], by simp [clearStream, modifySession, setHandle], by simp [Unspoken]⟩

theorem tasks_closeLaunch (s : State) (t : TaskId) (stage : LaunchStage)
    (r : Except Fault Answer) :
    ∃ r', (s.closeLaunch t stage r).tasks = s.tasks.set t (.finished r') ∧
      (s.closeLaunch t stage r).trace = s.trace := by
  unfold closeLaunch
  split <;> exact ⟨_, rfl, rfl⟩

end State

section Saying

variable {asked : List Request} {e : Event} {t : TaskId} {request : Request} {task : Task}
  {s s' : State} {q : Session}

/-- Only the task whose command was flushed says more than the entries of a log. -/
theorem Rests.speaks (h : Rests e t request task s s') (hs : Disciplined asked s)
    (hsession : s.session = some q) (hrequest : asked[t]? = some request)
    (htask : s.tasks[t]? = some task) :
    ∃ task' es, s'.tasks = s.tasks.set t task' ∧ s'.trace = s.trace ++ es.toArray ∧
      Speaks e t request q task task' es := by
  have hnone : Unspoken [] := by simp [Unspoken]
  cases h with
  | @wait job hq _ => exact ⟨.compileTurn job, [], rfl, by simp [State.setTask], .silent hq rfl hnone⟩
  | finish hq r =>
      exact ⟨.finished r, [], rfl, by simp [State.finish, State.setTask], .silent hq rfl hnone⟩
  | endPass hq _ r =>
      exact ⟨.finished r, [], rfl, by simp [State.endPass, State.finish, State.setTask,
        State.modifySession], .silent hq rfl hnone⟩
  | kill hq _ r =>
      obtain ⟨told, htrace, htold⟩ := s.unspoken_killSession
      exact ⟨.finished r, told, by simp [State.finish, State.setTask], htrace, .silent hq rfl htold⟩
  | @ask sup stage hq _ _ _ _ _ =>
      exact ⟨_, [.launch ⟨sup.settings.residentCommand sup.root.toText, none, sup.limit⟩], rfl,
        by simp [State.ask, State.setTask, State.emit],
        .silent hq rfl (by simp [Unspoken, Effect.speaks])⟩
  | @adopt i stage process hlaunching _ _ _ =>
      obtain ⟨r, htasks, htrace⟩ :=
        State.tasks_closeLaunch ((s.adopt i process).setHandle (some i)) t stage (.ok (.flag true))
      refine ⟨.finished r, [], htasks, ?_, .silent (hlaunching ▸ rfl) rfl hnone⟩
      rw [htrace]
      simp [State.setHandle, State.modifySession, State.adopt, State.modifySupervisor]
  | @stop i task' hq _ hstops _ _ =>
      refine ⟨task', [], rfl, by simp [State.setTask], .silent hq ?_ hnone⟩
      cases task' <;> first | rfl | cases hstops
  | @opens s₁ i p stage hq _ hopened _ hsends =>
      obtain ⟨_, htasks⟩ := Tells.of_openPass hopened
      refine ⟨_, _, ?_, ?_, .opens (i := i) (p := p) hq hsends hnone⟩
      · exact congrArg (List.set · t _) htasks
      · rw [State.trace_send, State.trace_of_openPass hsession hopened]
        simp
  | refused hq _ hrefused r =>
      obtain ⟨htells, htasks⟩ := Tells.of_openPass hrefused
      obtain ⟨told, htrace, htold⟩ := htells.unspoken
      exact ⟨.finished r, told, congrArg (List.set · t _) htasks, htrace, .silent hq rfl htold⟩
  | @compiles i p command path stage stage' hflush halive hturn hsends hrecorded =>
      subst hflush
      obtain ⟨rfl, hsaves⟩ : command = State.errorsCommand ∧
          ∀ uri, request = .save uri → q.outputPath = some path ∧ path ≠ "" := by
        simp only [State.outputPath, hsession, Option.bind_some] at hrecorded
        cases hs.allowed hrequest htask with
        | flushing hsends' _ _ =>
            rcases hrecorded with ⟨rfl, hrecorded⟩ | rfl
            · cases hsends'
              exact ⟨rfl, fun _ _ => hrecorded⟩
            · cases hsends'
              exact ⟨rfl, by rintro _ ⟨⟩⟩
      refine ⟨_, _, rfl, ?_, .compiles hsends hsaves hnone⟩
      rw [State.trace_send]
      rfl
  | reloads hflush _ hdone r =>
      subst hflush
      cases hs.allowed hrequest htask with
      | flushing hsends _ _ =>
          cases hsends with
          | saveOutput uri path =>
              exact ⟨_, _, rfl, by simp [State.endPass, State.finish, State.setTask,
                State.modifySession, State.emit, State.releaseWrite, State.modifySupervisor],
                .reloads r rfl hdone hnone⟩
  | flushed hflush _ hsilent r =>
      subst hflush
      cases hs.allowed hrequest htask with
      | flushing hsends _ _ =>
          exact ⟨_, [], rfl, by simp [State.endPass, State.finish, State.setTask,
            State.modifySession, State.releaseWrite, State.modifySupervisor],
            .ends r hsends hsilent hnone⟩

theorem Goes.speaks (h : Goes e t request task s s') (hs : Disciplined asked s)
    (hsession : s.session = some q) (hrequest : asked[t]? = some request)
    (htask : s.tasks[t]? = some task) :
    ∃ task' es, s'.tasks = s.tasks.set t task' ∧ s'.trace = s.trace ++ es.toArray ∧
      Speaks e t request q task task' es := by
  induction h generalizing q with
  | move hmoves _ ih =>
      have hs₁ := hs.moves hmoves
      obtain ⟨q₁, hsession₁, _⟩ := hs₁.resident
      obtain ⟨task', es, htasks, htrace, hspeaks⟩ :=
        ih hs₁ hsession₁ (hmoves.tasks_eq ▸ htask)
      obtain ⟨told, htrace₁, htold⟩ := hmoves.unspoken
      refine ⟨task', told ++ es, hmoves.tasks_eq ▸ htasks, ?_, hspeaks.of_later ?_ htold⟩
      · rw [htrace, htrace₁]
        simp
      · exact fun hjob => hmoves.session_eq hjob hsession hsession₁
  | rest hrests => exact hrests.speaks hs hsession hrequest htask

end Saying

/-! ### What an event says -/

/-- What is said at an event: nothing, or what the one task says that runs. -/
inductive Said (asked : List Request) (e : Event) (s s' : State) (es : List Effect) : Prop where
  | nobody (event : e.request? = none) (tasks : s'.tasks = s.tasks)
      (idle : ∀ t flush i p command stage, e = .flushed t flush →
        s.tasks[t]? ≠ some (.flushing i p command stage))
      (unspoken : Unspoken es)
  | somebody {q : Session} {t : TaskId} {request : Request} {task task' : Task}
      (session : s.session = some q) (actor : s.actor? e = some t)
      (asks : (asked ++ e.request?.toList)[t]? = some request)
      (stood : s.tasks[t]? = some task ∧ task.isFinished = false ∨
        s.tasks[t]? = none ∧ task.isFlushing = false)
      (stands : s'.tasks[t]? = some task')
      (others : ∀ t', t' ≠ t → s'.tasks[t']? = s.tasks[t']?)
      (speaks : Speaks e t request q task task' es)

theorem State.actor?_of_task? {s : State} {e : Event} {t : TaskId} (h : e.task? = some t) :
    s.actor? e = some t ∧ e.request? = none := by
  cases e <;> first | exact ⟨h, rfl⟩ | cases h

namespace Disciplined

variable {asked : List Request} {s : State}

theorem said (h : Disciplined asked s) {e : Event} (he : e.ofSession) :
    ∃ es, (s.step e).trace = s.trace ++ es.toArray ∧ Said asked e s (s.step e) es := by
  obtain ⟨q, hsession, _⟩ := h.resident
  have hgoes {t : TaskId} {request : Request} {task : Task} (hevent : e.task? = some t)
      (hrequest : asked[t]? = some request) (htask : s.tasks[t]? = some task)
      (hwaits : task.isFinished = false) (hgoes : Goes e t request task s (s.step e)) :
      ∃ es, (s.step e).trace = s.trace ++ es.toArray ∧ Said asked e s (s.step e) es := by
    obtain ⟨task', es, htasks, htrace, hspeaks⟩ := hgoes.speaks h hsession hrequest htask
    obtain ⟨hactor, hnone⟩ := State.actor?_of_task? (s := s) hevent
    have ht : t < s.tasks.length := (List.getElem?_eq_some_iff.mp htask).1
    refine ⟨es, htrace, .somebody hsession hactor ?_ (.inl ⟨htask, hwaits⟩) ?_ ?_ hspeaks⟩
    · simpa [hnone] using hrequest
    · simp [htasks, ht]
    · intro t' hne
      rw [htasks, List.getElem?_set_ne hne.symm]
  by_cases hflush : ∃ t flush i p command stage, e = .flushed t flush ∧
      s.tasks[t]? = some (.flushing i p command stage)
  · obtain ⟨t, flush, i, p, command, stage, rfl, htask⟩ := hflush
    obtain ⟨request, hrequest, _⟩ := h.request_of_task htask
    have hstep : s.step (.flushed t flush) = s.flushed t i p command stage flush := by
      simp [State.step, htask]
    rw [hstep] at hgoes ⊢
    exact hgoes rfl hrequest htask rfl (State.goes_flushed h hrequest htask flush)
  · have hidle : ∀ t flush i p command stage, e = .flushed t flush →
        s.tasks[t]? ≠ some (.flushing i p command stage) := by
      intro t flush i p command stage heq htask
      exact hflush ⟨t, flush, i, p, command, stage, heq, htask⟩
    have hhappens := h.step_cases he
    generalize s.step e = s' at hhappens hgoes
    cases hhappens with
    | tells hnone htells htasks =>
        obtain ⟨told, htrace, htold⟩ := htells.unspoken
        exact ⟨told, htrace, .nobody hnone htasks hidle htold⟩
    | exits hnone _ _ _ _ =>
        exact ⟨[], by simp [State.modifyProcess], .nobody hnone rfl hidle (by simp [Unspoken])⟩
    | unwatched hnone p htells htasks =>
        obtain ⟨told, htrace, htold⟩ := htells.unspoken
        exact ⟨told, htrace, .nobody hnone htasks hidle htold⟩
    | noticed hnone _ _ _ _ htells htasks =>
        obtain ⟨told, htrace, htold⟩ := htells.unspoken
        exact ⟨told, htrace, .nobody hnone htasks hidle htold⟩
    | goes hevent hrequest htask hwaits hgoes' =>
        exact hgoes hevent hrequest htask hwaits hgoes'
    | @calls _ request hevent hgoes' =>
        subst hevent
        have hrequest : (asked ++ [request])[s.tasks.length]? = some request := by simp [h.asks]
        obtain ⟨task', es, htasks, htrace, hspeaks⟩ :=
          hgoes'.speaks (h.addTask request _) hsession hrequest (by simp)
        have hnew : (Task.finished (.ok .nothing)).isFlushing = false := rfl
        refine ⟨es, htrace, .somebody hsession rfl hrequest (.inr ⟨by simp, hnew⟩) ?_ ?_ hspeaks⟩
        · simp [htasks]
        · intro t' hne
          rw [htasks, List.getElem?_set_ne hne.symm]
          rcases Nat.lt_or_gt_of_ne hne with hlt | hgt
          · rw [List.getElem?_append_left hlt]
          · rw [List.getElem?_eq_none (by simpa using Nat.succ_le_of_lt hgt), List.getElem?_eq_none (Nat.le_of_lt hgt)]

theorem effects_eq (h : Disciplined asked s) {e : Event} (he : e.ofSession) :
    (s.step e).trace = s.trace ++ (s.effects e).toArray ∧
      Said asked e s (s.step e) (s.effects e) := by
  obtain ⟨es, htrace, hsaid⟩ := h.said he
  have heffects : s.effects e = es := by
    simp [State.effects, htrace]
  exact heffects ▸ ⟨htrace, hsaid⟩

/-- The journal tells everything that is seen of a run. -/
theorem trace_run (h : Disciplined asked s) {events : List Event}
    (hevents : ∀ e ∈ events, e.ofSession) :
    (s.run events).trace.toList = s.trace.toList ++ (s.journal events).map (·.effect) := by
  induction events generalizing s asked with
  | nil => simp [State.run, State.journal]
  | cons e events ih =>
      rw [List.forall_mem_cons] at hevents
      have hrun : s.run (e :: events) = (s.step e).run events := rfl
      rw [hrun, ih (h.step hevents.1) hevents.2, (h.effects_eq hevents.1).1]
      simp [State.journal, Function.comp_def]

/-- Only one command is being flushed at a time. -/
theorem flushing_unique (h : Disciplined asked s) {t t' : TaskId} {task task' : Task}
    (htask : s.tasks[t]? = some task) (hflush : task.isFlushing) (htask' : s.tasks[t']? = some task')
    (hflush' : task'.isFlushing) : t = t' := by
  have hturn {t : TaskId} {task : Task} (htask : s.tasks[t]? = some task)
      (hflush : task.isFlushing) : s.turn = some t := by
    obtain ⟨request, _, hallowed⟩ := h.request_of_task htask
    cases hallowed with
    | flushing _ hturn _ => exact hturn
    | _ => cases hflush
  exact Option.some.inj ((hturn htask hflush).symm.trans (hturn htask' hflush'))

end Disciplined

/-! ### Commands come in blocks -/

/-- Whether a request is for a pass. -/
def Request.isPass : Request → Bool
  | save _ | compile => true
  | _ => false

theorem Sends.isPass {request : Request} {stage : SendStage} {command : String}
    (h : Sends request stage command) : request.isPass := by
  cases h <;> rfl

/-- The blocks that were begun so far. Their passes have ended, or are flushing a command of the last
block. -/
structure Piped (asked : List Request) (s : State) (blocks : List Block) : Prop where
  nodup : (blocks.map (·.pass)).Nodup
  passes : ∀ b ∈ blocks, ∃ request, asked[b.pass]? = some request ∧ request.isPass
  begun : ∀ b ∈ blocks, ∃ task, s.tasks[b.pass]? = some task ∧ (task.isFinished ∨ task.isFlushing)
  last : ∀ {t : TaskId} {i p command stage}, s.tasks[t]? = some (.flushing i p command stage) →
    ∃ earlier output, blocks = earlier ++ [⟨t, p, output⟩] ∧
      (command = State.errorsCommand → output = none)

theorem commands_commanded (t : TaskId) (p : ProcessId) (command : String) :
    commands ((commanded p command).map (.mk (some t))) =
      [⟨some t, p, command ++ State.commandEnd⟩] := rfl

theorem reloads_commanded (actor : Option TaskId) (p : ProcessId) (command : String) :
    reloads ((commanded p command).map (.mk actor)) = [] := rfl

theorem unspoken_openPass (ledger : Ledger) (extra : List String) :
    Unspoken (ledger.passPlan extra).effects := by
  simp [Unspoken, Ledger.passPlan, Effect.speaks]

namespace Piped

variable {asked : List Request} {s s' : State} {blocks : List Block}

theorem of_tasks_eq (h : Piped asked s blocks) (htasks : s'.tasks = s.tasks) :
    Piped asked s' blocks :=
  ⟨h.nodup, h.passes, htasks ▸ h.begun, fun ht => h.last (htasks ▸ ht)⟩

/-- A task that has begun no block, or that ends, leaves the blocks as they are. -/
theorem rest (h : Piped asked s blocks) {later : List Request} {t : TaskId} {task' : Task}
    (hstands : s'.tasks[t]? = some task') (hothers : ∀ t', t' ≠ t → s'.tasks[t']? = s.tasks[t']?)
    (hquiet : task'.isFlushing = false)
    (hended : task'.isFinished ∨ ∀ b ∈ blocks, b.pass ≠ t) : Piped (asked ++ later) s' blocks := by
  refine ⟨h.nodup, ?_, ?_, ?_⟩
  · intro b hb
    obtain ⟨request, hrequest, hpass⟩ := h.passes b hb
    refine ⟨request, ?_, hpass⟩
    rwa [List.getElem?_append_left (List.getElem?_eq_some_iff.mp hrequest).1]
  · intro b hb
    by_cases heq : b.pass = t
    · refine ⟨task', heq ▸ hstands, ?_⟩
      exact hended.elim .inl fun hnone => absurd heq (hnone b hb)
    · rw [hothers _ heq]
      exact h.begun b hb
  · intro t' i p command stage ht'
    by_cases heq : t' = t
    · subst heq
      rw [hstands, Option.some.injEq] at ht'
      subst ht'
      cases hquiet
    · exact h.last (hothers _ heq ▸ ht')

/-- A task that waits, or that is new, has begun no block. -/
theorem not_begun (h : Piped asked s blocks) {t : TaskId} {task : Task}
    (hstood : s.tasks[t]? = some task ∧ task.isFinished = false ∨ s.tasks[t]? = none)
    (hquiet : task.isFlushing = false) : ∀ b ∈ blocks, b.pass ≠ t := by
  rintro b hb rfl
  obtain ⟨task', ht', hbegun⟩ := h.begun b hb
  rcases hstood with ⟨ht, hwaits⟩ | hnone
  · obtain rfl := Option.some.inj (ht.symm.trans ht')
    simp [hwaits, hquiet] at hbegun
  · simp [hnone] at ht'

/-- The task that writes a command is the only one that flushes, so its block is the last one. -/
theorem write {earlier : List Block} {t : TaskId} {i : SupervisorId} {p : ProcessId}
    {command : String} {stage : SendStage} {request : Request} (hs' : Disciplined asked s')
    (hstands : s'.tasks[t]? = some (.flushing i p command stage))
    (hothers : ∀ t', t' ≠ t → s'.tasks[t']? = s.tasks[t']?)
    (hasks : asked[t]? = some request) (hpass : request.isPass)
    (hnodup : (earlier.map (·.pass)).Nodup) (hnew : ∀ b ∈ earlier, b.pass ≠ t)
    (hpasses : ∀ b ∈ earlier, ∃ request, asked[b.pass]? = some request ∧ request.isPass)
    (hbegun : ∀ b ∈ earlier, ∃ task, s.tasks[b.pass]? = some task ∧
      (task.isFinished ∨ task.isFlushing))
    {output : Option String} (houtput : command = State.errorsCommand → output = none) :
    Piped asked s' (earlier ++ [⟨t, p, output⟩]) := by
  refine ⟨?_, ?_, ?_, ?_⟩
  · rw [List.map_append, List.nodup_append]
    refine ⟨hnodup, List.nodup_singleton _, ?_⟩
    simpa using hnew
  · intro b hb
    rcases List.mem_append.mp hb with hb | hb
    · exact hpasses b hb
    · rw [List.mem_singleton.mp hb]
      exact ⟨request, hasks, hpass⟩
  · intro b hb
    rcases List.mem_append.mp hb with hb | hb
    · rw [hothers _ (hnew b hb)]
      exact hbegun b hb
    · rw [List.mem_singleton.mp hb]
      exact ⟨_, hstands, .inr rfl⟩
  · intro t' i' p' command' stage' ht'
    obtain rfl := hs'.flushing_unique hstands rfl ht' rfl
    cases hstands.symm.trans ht'
    exact ⟨earlier, output, rfl, houtput⟩

/-- What an event adds to the commands ends the last block or begins a new one. -/
theorem step (h : Piped asked s blocks) (hs : Disciplined asked s) {e : Event} (he : e.ofSession) :
    ∃ blocks', blocks.flatMap Block.commands ++ commands ((s.effects e).map (.mk (s.actor? e))) =
        blocks'.flatMap Block.commands ∧
      Piped (asked ++ e.request?.toList) (s.step e) blocks' := by
  have hs' := hs.step he
  have hsaid := (hs.effects_eq he).2
  generalize s.effects e = es at hsaid
  have hpasses : ∀ b ∈ blocks, ∃ request,
      (asked ++ e.request?.toList)[b.pass]? = some request ∧ request.isPass := by
    intro b hb
    obtain ⟨request, hrequest, hpass⟩ := h.passes b hb
    refine ⟨request, ?_, hpass⟩
    rwa [List.getElem?_append_left (List.getElem?_eq_some_iff.mp hrequest).1]
  cases hsaid with
  | nobody hnone htasks _ hes =>
      exact ⟨blocks, by simp [hes.commands_eq], by simpa [hnone] using h.of_tasks_eq htasks⟩
  | @somebody q t request task task' _ hactor hasks hstood hstands hothers hspeaks =>
      rw [hactor]
      have hstood' : s.tasks[t]? = some task ∧ task.isFinished = false ∨ s.tasks[t]? = none :=
        hstood.imp_right And.left
      cases hspeaks with
      | silent hq hq' hes =>
          exact ⟨blocks, by simp [hes.commands_eq],
            h.rest hstands hothers hq' (.inr (h.not_begun hstood' hq))⟩
      | @opens _ i p stage told hq hsends hes =>
          refine ⟨blocks ++ [⟨t, p, none⟩], ?_, write hs' hstands hothers hasks ?_ h.nodup
            (h.not_begun hstood' hq) hpasses h.begun fun _ => rfl⟩
          · simp [hes.commands_eq, (unspoken_openPass _ _).commands_eq, commands_commanded,
              Block.commands]
          · exact hsends.isPass
      | @compiles i p path stage stage' told hsends _ hes =>
          obtain ⟨earlier, output, rfl, houtput⟩ := h.last (hstood.elim And.left nofun)
          obtain rfl := houtput rfl
          have hnodup := h.nodup
          rw [List.map_append, List.nodup_append] at hnodup
          obtain ⟨hnodup, _, hnew⟩ := hnodup
          refine ⟨earlier ++ [⟨t, p, some path⟩], ?_, write hs' hstands hothers hasks ?_ hnodup ?_
            (fun b hb => hpasses b (List.mem_append_left _ hb))
            (fun b hb => h.begun b (List.mem_append_left _ hb)) ?_⟩
          · simp [hes.commands_eq, commands_commanded, Block.commands]
          · exact hsends.isPass
          · simpa using hnew
          · exact fun heq => absurd heq (compileCommand_ne_errorsCommand path)
      | reloads r _ _ hes =>
          refine ⟨blocks, ?_, h.rest hstands hothers rfl (.inl rfl)⟩
          have hreload : commands [⟨some t, .notify .reloadServer⟩] = [] := rfl
          simp [hes.commands_eq, hreload]
      | ends r _ _ hes =>
          refine ⟨blocks, ?_, h.rest hstands hothers rfl (.inl rfl)⟩
          simp [hes.commands_eq]

theorem run (h : Piped asked s blocks) (hs : Disciplined asked s) {events : List Event}
    (hevents : ∀ e ∈ events, e.ofSession) :
    ∃ blocks', blocks.flatMap Block.commands ++ commands (s.journal events) =
        blocks'.flatMap Block.commands ∧
      Piped (asked ++ requests events) (s.run events) blocks' := by
  induction events generalizing s asked blocks with
  | nil => exact ⟨blocks, by simp [State.journal, commands], by simpa [State.run] using h⟩
  | cons e events ih =>
      rw [List.forall_mem_cons] at hevents
      obtain ⟨blocks₁, hstep, h₁⟩ := h.step hs hevents.1
      obtain ⟨blocks₂, hrun, h₂⟩ := ih h₁ (hs.step hevents.1) hevents.2
      refine ⟨blocks₂, ?_, ?_⟩
      · rw [State.journal, commands_append, ← List.append_assoc, hstep, hrun]
      · rw [requests_cons, ← List.append_assoc]
        exact h₂

end Piped

/-! ### Messages to the client -/

namespace State

/-- The save whose command to compile was taken without an error, if the event tells so. -/
def compiledSave? (s : State) (asked : List Request) : Event → Option TaskId
  | .flushed t .done =>
    match asked[t]?, s.tasks[t]? with
    | some (.save _), some (.flushing _ _ command _) =>
      if command = errorsCommand then none else some t
    | _, _ => none
  | _ => none

/-- The saves whose commands to compile were taken without an error, in order. `asked` are the
requests that were made before. -/
def compiledSaves (s : State) (asked : List Request) : List Event → List TaskId
  | [] => []
  | e :: events =>
    (s.compiledSave? asked e).toList ++
      (s.step e).compiledSaves (asked ++ e.request?.toList) events

theorem compiledSave?_eq_some {s : State} {asked : List Request} {e : Event} {t : TaskId}
    (h : s.compiledSave? asked e = some t) :
    e = .flushed t .done ∧ (∃ uri, asked[t]? = some (.save uri)) ∧
      ∃ i p command stage, s.tasks[t]? = some (.flushing i p command stage) ∧
        command ≠ errorsCommand := by
  unfold compiledSave? at h
  split at h
  · split at h
    · next t' _ _ _ _ _ hrequest htask =>
        split at h
        · cases h
        · next hne =>
            obtain rfl := Option.some.inj h
            exact ⟨rfl, ⟨_, hrequest⟩, _, _, _, _, htask, hne⟩
    · cases h
  · cases h

end State

namespace Disciplined

variable {asked : List Request} {s : State}

/-- The client is told to reload exactly when the command of a save to compile was taken. -/
theorem reloads_effects (h : Disciplined asked s) {e : Event} (he : e.ofSession) :
    reloads ((s.effects e).map (.mk (s.actor? e))) =
      ((s.compiledSave? asked e).map some).toList := by
  have hsaid := (h.effects_eq he).2
  generalize s.effects e = es at hsaid
  cases hsaid with
  | nobody _ _ hidle hes =>
      have hnone : s.compiledSave? asked e = none := by
        rw [Option.eq_none_iff_forall_ne_some]
        intro t ht
        obtain ⟨hevent, _, i, p, command, stage, htask, _⟩ := State.compiledSave?_eq_some ht
        exact hidle _ _ _ _ _ _ hevent htask
      simp [hnone, hes.reloads_eq]
  | @somebody q t request task task' _ hactor hasks hstood hstands hothers hspeaks =>
      rw [hactor]
      -- A save counts only if this very task waited for its second command.
      have hnone (hother : ∀ uri i p command stage, request = .save uri →
          task = .flushing i p command stage → command ≠ State.errorsCommand →
          e ≠ .flushed t .done) : s.compiledSave? asked e = none := by
        rw [Option.eq_none_iff_forall_ne_some]
        intro t' ht'
        obtain ⟨hevent, ⟨uri, hrequest⟩, i, p, command, stage, htask, hne⟩ :=
          State.compiledSave?_eq_some ht'
        subst hevent
        obtain rfl : t' = t := Option.some.inj hactor
        have hsave : request = .save uri := by
          simpa [Event.request?, hrequest] using hasks.symm
        have hsame : task = .flushing i p command stage := by
          rcases hstood with ⟨hstood, _⟩ | ⟨hnew, _⟩
          · exact Option.some.inj (hstood.symm.trans htask)
          · simp [htask] at hnew
        exact hother uri i p command stage hsave hsame hne rfl
      cases hspeaks with
      | silent hq _ hes =>
          rw [hnone (by rintro uri i p command stage - rfl; cases hq)]
          simp [hes.reloads_eq]
      | opens hq _ hes =>
          rw [hnone (by rintro uri i p command stage - rfl; cases hq)]
          simp [hes.reloads_eq, (unspoken_openPass _ _).reloads_eq, reloads_commanded]
      | compiles _ _ hes =>
          rw [hnone (by rintro uri i p command stage - ⟨⟩ hne; exact absurd rfl hne)]
          simp [hes.reloads_eq, reloads_commanded]
      | @reloads uri path i p told r hsaved hdone hes =>
          subst hsaved hdone
          have hrequest : asked[t]? = some (.save uri) := by simpa [Event.request?] using hasks
          have hsome : s.compiledSave? asked (.flushed t .done) = some t := by
            simp [State.compiledSave?, hrequest, hstood.elim And.left nofun,
              compileCommand_ne_errorsCommand]
          have hreload : Machine.reloads [⟨some t, .notify .reloadServer⟩] = [some t] := rfl
          simp [hsome, hes.reloads_eq, hreload]
      | ends r hsends hsilent hes =>
          rw [hnone ?_]
          · simp [hes.reloads_eq]
          · rintro uri i p command stage rfl ⟨⟩ hne
            cases hsends with
            | saveErrors => exact absurd rfl hne
            | saveOutput => exact hsilent rfl

theorem reloads_journal (h : Disciplined asked s) {events : List Event}
    (hevents : ∀ e ∈ events, e.ofSession) :
    reloads (s.journal events) = (s.compiledSaves asked events).map some := by
  induction events generalizing s asked with
  | nil => rfl
  | cons e events ih =>
      rw [List.forall_mem_cons] at hevents
      rw [State.journal, reloads_append, h.reloads_effects hevents.1,
        ih (h.step hevents.1) hevents.2, State.compiledSaves]
      cases s.compiledSave? asked e <;> simp

/-- A task that has finished tells nothing. -/
theorem not_mem_compiledSaves {t : TaskId} {r : Except Fault Answer}
    (hfinished : s.tasks[t]? = some (.finished r)) (events : List Event) :
    t ∉ s.compiledSaves asked events := by
  induction events generalizing s asked with
  | nil => simp [State.compiledSaves]
  | cons e events ih =>
      rw [State.compiledSaves, List.mem_append, not_or]
      refine ⟨?_, ih (State.step_finished hfinished e)⟩
      rw [Option.mem_toList]
      intro ht
      obtain ⟨_, _, i, p, command, stage, htask, _⟩ := State.compiledSave?_eq_some ht
      rw [hfinished] at htask
      cases htask

/-- Every save is counted once: its pass is over when its command to compile was taken. -/
theorem nodup_compiledSaves (h : Disciplined asked s) {events : List Event}
    (hevents : ∀ e ∈ events, e.ofSession) : (s.compiledSaves asked events).Nodup := by
  induction events generalizing s asked with
  | nil => simp [State.compiledSaves]
  | cons e events ih =>
      rw [List.forall_mem_cons] at hevents
      have hrest := ih (h.step hevents.1) hevents.2
      rw [State.compiledSaves]
      cases hsave : s.compiledSave? asked e with
      | none => simpa using hrest
      | some t =>
          obtain ⟨rfl, ⟨uri, hrequest⟩, i, p, command, stage, htask, hne⟩ :=
            State.compiledSave?_eq_some hsave
          have ht : t < s.tasks.length := (List.getElem?_eq_some_iff.mp htask).1
          have hfinished : (s.step (.flushed t .done)).tasks[t]? = some (.finished (.ok .nothing)) := by
            cases h.allowed hrequest htask with
            | flushing hsends _ _ =>
                cases hsends with
                | saveErrors => exact absurd rfl hne
                | saveOutput =>
                    simp only [State.step, htask, State.flushed, State.afterSend]
                    exact List.getElem?_set_self ht
          simpa using ⟨not_mem_compiledSaves hfinished events, hrest⟩

end Disciplined

/-! ### Whole runs -/

/-- What is done at an event that writes a command for a request: the first command comes right after
an empty list was published for every document that carried diagnostics and for those that the pass
is to clear, the second one tells where to compile to. That of a save was recorded. -/
inductive Commands (q : Session) (request : Request) : List Effect → Prop where
  | opens (p : ProcessId) {told : List Effect} (unspoken : Unspoken told) :
      Commands q request
        (told ++ (Ordered.distinct (Ordered.keys q.ledger.store ++ request.cleared)).map
          (fun u => .publish ⟨u, []⟩) ++ commanded p State.errorsCommand)
  | compiles (p : ProcessId) (path : String) {told : List Effect} (unspoken : Unspoken told)
      (recorded : ∀ uri, request = .save uri → q.outputPath = some path ∧ path ≠ "") :
      Commands q request (told ++ commanded p (State.compileCommand path))

theorem Disciplined.commands_effects {asked : List Request} {s : State} (h : Disciplined asked s)
    {e : Event} (he : e.ofSession) {p : ProcessId} {text : String}
    (hwrite : Effect.write p text ∈ s.effects e) :
    ∃ q t request, s.session = some q ∧ s.actor? e = some t ∧
      (asked ++ e.request?.toList)[t]? = some request ∧ request.isPass ∧
      Commands q request (s.effects e) := by
  have hsaid := (h.effects_eq he).2
  generalize s.effects e = es at hsaid hwrite
  have hspoken {told : List Effect} (htold : Unspoken told) : Effect.write p text ∉ told :=
    fun hmem => nomatch htold _ hmem
  cases hsaid with
  | nobody _ _ _ hes => exact absurd hwrite (hspoken hes)
  | somebody hsession hactor hasks _ _ _ hspeaks =>
      refine ⟨_, _, _, hsession, hactor, hasks, ?_⟩
      cases hspeaks with
      | silent _ _ hes => exact absurd hwrite (hspoken hes)
      | opens _ hsends hes => exact ⟨hsends.isPass, .opens _ hes⟩
      | compiles hsends hrecorded hes => exact ⟨hsends.isPass, .compiles _ _ hes hrecorded⟩
      | reloads _ _ _ hes => simp [hspoken hes] at hwrite
      | ends _ _ _ hes => exact absurd hwrite (hspoken hes)

section Whole

variable {session : Session}

/-- Whatever is asked of a session that keeps a compiler running, and whatever its processes do:
the commands for each process are blocks of one command that asks for errors and perhaps one to
compile, every block of a pass of its own; a pass clears its documents before it writes; and the
client is told to reload once for every save whose command to compile was taken, in order, and at no
other time. -/
theorem blocks_and_reloads_of_run (hmode : session.settings.mode = .persistent) (files : FileTree)
    {events : List Event} (hevents : ∀ e ∈ events, e.ofSession) :
    let s := State.opened session files
    let journal := s.journal events
    (s.run events).trace.toList = journal.map (·.effect) ∧
    (∃ blocks : List Block, (blocks.map (·.pass)).Nodup ∧
      (∀ b ∈ blocks, ∃ request, (requests events)[b.pass]? = some request ∧ request.isPass) ∧
      ∀ p, (commands journal).filter (·.process = p) =
        (blocks.filter (·.process = p)).flatMap Block.commands) ∧
    (∀ before e after, events = before ++ e :: after →
      ∀ p text, Effect.write p text ∈ (s.run before).effects e →
        ∃ q t request, (s.run before).session = some q ∧ (s.run before).actor? e = some t ∧
          (requests (before ++ [e]))[t]? = some request ∧ request.isPass ∧
          Commands q request ((s.run before).effects e)) ∧
    reloads journal = (s.compiledSaves [] events).map some ∧
    (s.compiledSaves [] events).Nodup := by
  intro s journal
  have hs : Disciplined [] s := disciplined_opened hmode files
  refine ⟨?_, ?_, ?_, hs.reloads_journal hevents, hs.nodup_compiledSaves hevents⟩
  · exact hs.trace_run hevents
  · have hempty : Piped [] s [] := ⟨by simp, by simp, by simp, by simp [s, State.opened]⟩
    obtain ⟨blocks, hcommands, hpiped⟩ := hempty.run hs hevents
    refine ⟨blocks, hpiped.nodup, hpiped.passes, fun p => ?_⟩
    rw [← Block.filter_flatMap_commands, ← hcommands]
    rfl
  · rintro before e after rfl p text hwrite
    have hbefore : ∀ e ∈ before, e.ofSession := fun e he => hevents e (by simp [he])
    have he : e.ofSession := hevents e (by simp)
    have hlast : requests (before ++ [e]) = [] ++ requests before ++ e.request?.toList := by
      rw [requests_append, requests_cons]
      simp
    rw [hlast]
    exact (hs.run hbefore).commands_effects he hwrite

end Whole

/-- A save and a request to compile while a game server runs, and a save after it has stopped. -/
def liveSaves : List Event :=
  [.call (.start (some (Path.ofString "/ws"))), .launched 0 (.ok ()),
    .call (.gameStarted "/srv"), .call (.save "file:///ws/a.dps"), .call .compile,
    .flushed 2 .done, .call .gameStopped, .flushed 2 .done, .proceed 3, .flushed 3 .done,
    .flushed 3 .done, .call (.save "file:///ws/a.dps"), .flushed 5 .done]

theorem one_reload_of_liveSaves :
    let journal := (State.opened savedSession {}).journal liveSaves
    savedSession.settings.mode = .persistent ∧ (∀ e ∈ liveSaves, e.ofSession) ∧
    (commands journal).map (·.writer) = [some 2, some 2, some 3, some 3, some 5] ∧
    (∃ blocks : List Block, (commands journal).filter (·.process = 0) =
      (blocks.filter (·.process = 0)).flatMap Block.commands) ∧
    reloads journal = [some 2] := by
  have hevents : ∀ e ∈ liveSaves, e.ofSession := by
    simp [liveSaves, Event.ofSession, Event.request?, Request.ofSession]
  have hmode : savedSession.settings.mode = .persistent := rfl
  obtain ⟨_, ⟨blocks, _, _, hblocks⟩, _, hreloads, _⟩ := blocks_and_reloads_of_run hmode {} hevents
  refine ⟨hmode, hevents, rfl, ⟨blocks, hblocks 0⟩, ?_⟩
  rw [hreloads]
  rfl

end Machine

end Datapack
