import Datapack.Proofs.Machine.Driven
import Datapack.Proofs.Text.Pieces
import Datapack.Server.Argument

/-! How commands reach a compiler. Its input is nothing but the commands that tasks have sent to it,
each of them encoded and ended; so it finds the pieces of these commands, and it finds the commands
themselves if and only if none of them has the end of a command in it. -/

namespace Datapack.Machine

open Text Server

/-! ### Both sides -/

/-- The command that a task sends at an event, and the process it is for: after the event the task
waits for a flush that it did not wait for before. -/
def State.sends? (s : State) (e : Event) : Option (ProcessId × String) := do
  let t ← s.actor? e
  let task ← (s.step e).tasks[t]?
  if e.flushes ∨ (s.tasks[t]?.bind Task.flush?).isNone then task.flush? else none

/-- The commands that were sent in a run, and the processes they are for. -/
def State.sends (s : State) : List Event → List (ProcessId × String)
  | [] => []
  | e :: events => (s.sends? e).toList ++ (s.step e).sends events

/-- The commands that were sent to a process in a run. -/
def State.sentTo (s : State) (p : ProcessId) (events : List Event) : List String :=
  ((s.sends events).filter (·.1 = p)).map (·.2)

/-- What was written to the input of a process in a run. -/
def State.inputOf (s : State) (p : ProcessId) (events : List Event) : Bytes :=
  ((commands (s.journal events)).filter (·.process = p)).flatMap fun c => encodeUtf8 c.text

/-- The commands that a compiler finds in its input: what each end of a command closes, decoded. -/
def receivedCommands (bytes : Bytes) : Option (List String) :=
  (pieces 13 10 bytes).dropLast.mapM fun piece => (decodeStrict? piece).map String.ofList

/-- Whether a text has the end of a command in it. -/
def HasEnd (text : String) : Prop := State.commandEnd.toList <:+: text.toList

/-- The commands that a compiler takes one command for. -/
def commandPieces (command : String) : List String :=
  (pieces '\r' '\n' command.toList).map String.ofList

/-! ### What is written -/

theorem commands_of_undriven {es : List Effect} (hes : ∀ e ∈ es, e.drives = false)
    (actor : Option TaskId) : commands (es.map (.mk actor)) = [] := by
  rw [commands, List.filterMap_eq_nil_iff]
  intro d hd
  obtain ⟨e, he, rfl⟩ := List.mem_map.mp hd
  have hdrives := hes e he
  cases e <;> first | rfl | cases hdrives

/-- Only the last thing that was done can be a command, if nothing else drives a compiler. -/
theorem commands_concat {es : List Effect} (hes : ∀ e ∈ es, e.drives = false) (last : Effect)
    (actor : Option TaskId) :
    commands ((es ++ [last]).map (.mk actor)) = commands [.mk actor last] := by
  rw [List.map_append, commands_append, commands_of_undriven hes]
  rfl

/-- A command as it is written for the task that sends it: ended. -/
def ended (actor : Option TaskId) (sent : ProcessId × String) : Command :=
  ⟨actor, sent.1, sent.2 ++ State.commandEnd⟩

/-- On its way a task writes the command whose flush it waits for at the end, and no other. -/
theorem Drives.commands_eq {mode : CompilerMode} {t : TaskId} {s s' : State}
    (h : Drives mode t s s') (ht : t < s.tasks.length) :
    ∃ es : List Effect, s'.trace = s.trace ++ es.toArray ∧ ∀ actor,
      commands (es.map (.mk actor)) = (s'.tasks[t]?.bind Task.flush?).toList.map (ended actor) := by
  have hrest {s₂ : State} (htasks : s₂.tasks = s.tasks) (task : Task) :
      (s₂.setTask t task).tasks[t]?.bind Task.flush? = task.flush? := by
    rw [State.setTask, htasks, List.getElem?_set_self ht, Option.bind_some]
  have hlast {s₂ s₃ : State} (hsteady : Steady s s₂) {last : Effect} {task : Task}
      (htasks : s₃.tasks = s₂.tasks) (htrace : s₃.trace = s₂.trace.push last)
      (hflush : ∀ actor, commands [.mk actor last] = task.flush?.toList.map (ended actor)) :
      ∃ es : List Effect, (s₃.setTask t task).trace = s.trace ++ es.toArray ∧ ∀ actor,
        commands (es.map (.mk actor)) =
          ((s₃.setTask t task).tasks[t]?.bind Task.flush?).toList.map (ended actor) := by
    obtain ⟨es, hes, hundriven⟩ := hsteady.trace_push last
    refine ⟨es ++ [last], htrace.trans hes, fun actor => ?_⟩
    rw [commands_concat hundriven, hrest (htasks.trans hsteady.tasks), hflush]
  cases h with
  | stays steady resting =>
      obtain ⟨es, htrace, hes⟩ := steady.trace
      refine ⟨es, htrace, fun actor => ?_⟩
      rw [commands_of_undriven hes, steady.tasks, Option.bind_eq_none_iff.mpr resting]
      rfl
  | rests steady _ resting =>
      obtain ⟨es, htrace, hes⟩ := steady.trace
      refine ⟨es, htrace, fun actor => ?_⟩
      rw [commands_of_undriven hes, hrest steady.tasks, resting]
      rfl
  | writes steady => exact hlast steady rfl rfl fun _ => rfl
  | launches steady => exact hlast steady rfl rfl fun _ => rfl
  | compiles steady => exact hlast steady rfl rfl fun _ => rfl

/-- What an event does, if the trace tells. -/
theorem State.effects_eq_of_trace {s : State} {e : Event} {es : List Effect}
    (h : (s.step e).trace = s.trace ++ es.toArray) : s.effects e = es := by
  simp [State.effects, h]

/-- What a task sends at an event, if it did not wait for a flush before or the event ends its
flush: what it waits for now. -/
theorem State.sends?_eq {s s' : State} {e : Event} {t : TaskId} (hstep : s.step e = s')
    (hactor : s.actor? e = some t) (hresting : e.flushes ∨ s.Rests t) :
    s.sends? e = s'.tasks[t]?.bind Task.flush? := by
  have hopen : e.flushes ∨ (s.tasks[t]?.bind Task.flush?).isNone := by
    refine hresting.imp_right fun hresting => ?_
    rw [Option.isNone_iff_eq_none, Option.bind_eq_none_iff]
    exact hresting
  simp only [State.sends?, hstep, hactor, Option.bind_eq_bind, Option.bind_some, if_pos hopen]

/-- Nothing is sent at an event that does not apply. -/
theorem State.sends?_of_idle {s : State} {e : Event} (hstep : s.step e = s)
    (hunmoved : e.flushes → ∀ t, s.actor? e = some t → s.Rests t) : s.sends? e = none := by
  cases hactor : s.actor? e with
  | none => simp [State.sends?, hactor]
  | some t =>
      by_cases hflush : s.tasks[t]?.bind Task.flush? = none
      · rw [State.sends?_eq hstep hactor (.inr (Option.bind_eq_none_iff.mp hflush)), hflush]
      · have he : ¬e.flushes := fun he =>
          hflush (Option.bind_eq_none_iff.mpr (hunmoved he t hactor))
        have hwaits : ¬(e.flushes ∨ (s.tasks[t]?.bind Task.flush?).isNone) := by
          rw [Option.isNone_iff_eq_none]
          exact not_or.mpr ⟨he, hflush⟩
        simp only [State.sends?, hactor, Option.bind_eq_bind, Option.bind_some, if_neg hwaits,
          Option.bind_fun_none]

/-- At an event, a command is written if and only if a task sends one: that command, ended. -/
theorem State.commands_effects_eq (s : State) (e : Event) :
    commands ((s.effects e).map (.mk (s.actor? e))) =
      (s.sends? e).toList.map (ended (s.actor? e)) := by
  have hdriven := s.driven_step e
  have hunsent (es : List Effect) (htrace : (s.step e).trace = s.trace ++ es.toArray)
      (hes : commands (es.map (.mk (s.actor? e))) = []) (hnone : s.sends? e = none) :
      commands ((s.effects e).map (.mk (s.actor? e))) =
        (s.sends? e).toList.map (ended (s.actor? e)) := by
    rw [effects_eq_of_trace htrace, hes, hnone]
    rfl
  generalize hstep : s.step e = s' at hdriven hunsent
  cases hdriven with
  | idle unmoved => exact hunsent [] (by simp) rfl (State.sends?_of_idle hstep unmoved)
  | aside nobody tasks orders runners trace undriven =>
      refine hunsent _ trace (commands_of_undriven undriven _) ?_
      simp only [State.sends?, nobody, Option.bind_eq_bind, Option.bind_none]
  | runs actor prepared resting drives =>
      obtain ⟨es, htrace, hes⟩ := drives.commands_eq prepared.lt_length
      rw [prepared.trace, ← hstep] at htrace
      rw [effects_eq_of_trace htrace, State.sends?_eq hstep actor resting]
      exact hes _
  | @relaunches s₁ s₂ t asked actor fresh prepared steady i launch =>
      obtain ⟨es, htrace, hes⟩ := steady.trace_push (.launch launch)
      refine hunsent (es ++ [.launch launch]) ?_ (commands_concat hes _ _) ?_
      · rw [← prepared.trace]
        exact htrace
      · have ht : t < s₂.tasks.length := by
          rw [steady.tasks]
          exact prepared.lt_length
        rw [State.sends?_eq hstep actor (.inr (by simp [State.Rests, fresh]))]
        simp [State.setTask, State.emit, ht, Task.flush?]

/-- The input of a process is the commands that were sent to it, each of them ended. -/
theorem State.inputOf_eq (s : State) (p : ProcessId) (events : List Event) :
    s.inputOf p events = encodeChars ((s.sentTo p events).flatMap fun command =>
      command.toList ++ ['\r', '\n']) := by
  induction events generalizing s with
  | nil => rfl
  | cons e events ih =>
      have hrest := ih (s.step e)
      rw [State.inputOf] at hrest ⊢
      rw [State.sentTo, State.sends, State.journal, commands_append, List.filter_append,
        List.flatMap_append, hrest, s.commands_effects_eq e, List.filter_append, List.map_append,
        List.flatMap_append, encodeChars_append, State.sentTo]
      congr 1
      cases s.sends? e with
      | none => rfl
      | some sent =>
          by_cases hp : sent.1 = p
          · simp [hp, ended, encodeUtf8, State.commandEnd]
          · simp [hp, ended, encodeChars]

/-! ### What is received -/

/-- A compiler finds the pieces of the commands that were sent to it. -/
theorem received_pieces (s : State) (p : ProcessId) (events : List Event) :
    receivedCommands (s.inputOf p events) =
      some ((s.sentTo p events).flatMap commandPieces) := by
  have hencoded (cs : List Char) : pieces 13 10 (encodeChars cs) =
      (pieces '\r' '\n' cs).map encodeChars :=
    pieces_encodeChars (r := '\r') (f := '\n') (by decide) (by decide) cs
  have htexts : (s.sentTo p events).flatMap (fun command => command.toList ++ ['\r', '\n']) =
      ((s.sentTo p events).map String.toList).flatMap (· ++ ['\r', '\n']) := by
    rw [List.flatMap_map]
  rw [receivedCommands, s.inputOf_eq, hencoded, htexts, pieces_flatMap (by decide), List.map_append,
    List.map_singleton, List.dropLast_concat, List.mapM_map]
  have hdecoded : (fun piece => (decodeStrict? piece).map String.ofList) ∘ encodeChars =
      fun piece => pure (String.ofList piece) := by
    funext piece
    rw [Function.comp_apply, decodeStrict?_encodeChars]
    rfl
  rw [hdecoded, List.mapM_pure, List.flatMap_map, List.map_flatMap]
  rfl

/-- Commands are received as they are if and only if none has the end of a command in it. -/
theorem flatMap_commandPieces_eq_iff (commands : List String) :
    commands.flatMap commandPieces = commands ↔ ∀ command ∈ commands, ¬HasEnd command := by
  have htexts : commands.flatMap commandPieces =
      ((commands.map String.toList).flatMap (pieces '\r' '\n')).map String.ofList := by
    rw [List.flatMap_map, List.map_flatMap]
    rfl
  have hback (texts : List (List Char)) :
      texts.map String.ofList = commands ↔ texts = commands.map String.toList := by
    constructor
    · rintro rfl
      simp
    · rintro rfl
      simp
  rw [htexts, hback, flatMap_pieces_eq_iff, List.forall_mem_map]
  refine forall₂_congr fun command _ => ?_
  rw [pieces_eq_singleton_iff (by decide), HasEnd]
  rfl

theorem not_hasEnd_errorsCommand : ¬HasEnd State.errorsCommand := by
  have hreturn : '\r' ∉ State.errorsCommand.toList := by decide
  exact fun h => hreturn (h.subset (List.mem_cons_self (a := '\r')))

/-- The command that compiles into a directory has the end of a command in it if and only if the
path of the directory has. -/
theorem hasEnd_compileCommand_iff (path : String) :
    HasEnd (State.compileCommand path) ↔ HasEnd path := by
  rw [HasEnd, State.compileCommand, String.toList_append]
  exact infix_append_left_iff (by decide) path.toList

/-- A compiler finds in its input the pieces of the commands that were sent to it in a run, so it
finds these commands if and only if the end of a command is in none of them. It is not in the
command that reports errors, but in the command that compiles into a directory as soon as it is in
the path, and any text is taken for a path. -/
theorem received_eq_sent_iff (s : State) (p : ProcessId) (events : List Event) :
    receivedCommands (s.inputOf p events) =
        some ((s.sentTo p events).flatMap commandPieces) ∧
      (receivedCommands (s.inputOf p events) = some (s.sentTo p events) ↔
        ∀ command ∈ s.sentTo p events, ¬HasEnd command) ∧
      ¬HasEnd State.errorsCommand ∧
      ∀ path, textArgument (.str path) = some path ∧
        (HasEnd (State.compileCommand path) ↔ HasEnd path) := by
  refine ⟨received_pieces s p events, ?_, not_hasEnd_errorsCommand, fun path => ⟨?_, ?_⟩⟩
  · rw [received_pieces, Option.some.injEq, flatMap_commandPieces_eq_iff]
  · simp [textArgument]
  · exact hasEnd_compileCommand_iff path

/-- A game server that starts with a path in which the end of a command is, and a save. -/
def brokenPath : List Event :=
  [.call (.start (some (Path.ofString "/ws"))), .launched 0 (.ok ()),
    .call (.gameStarted "/srv\r\n/logerrors"), .call (.save "file:///ws/a.dps"),
    .flushed 2 .done, .flushed 2 .done]

/-- One of the two commands that are sent is received as two. -/
theorem three_received_of_two :
    let s := State.opened savedSession {}
    textArgument (.str "/srv\r\n/logerrors") = some "/srv\r\n/logerrors" ∧
    s.sentTo 0 brokenPath = ["/logerrors", "/compile /srv\r\n/logerrors"] ∧
    receivedCommands (s.inputOf 0 brokenPath) =
      some ["/logerrors", "/compile /srv", "/logerrors"] := by
  have hsent : (State.opened savedSession {}).sentTo 0 brokenPath =
      ["/logerrors", "/compile /srv\r\n/logerrors"] := by decide +kernel
  refine ⟨by simp [textArgument], hsent, ?_⟩
  rw [received_pieces, hsent]
  decide +kernel

end Datapack.Machine
