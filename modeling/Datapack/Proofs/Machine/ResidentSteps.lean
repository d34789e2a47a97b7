import Datapack.Proofs.Machine.Residents

/-! What one event does to a session that keeps a compiler running: at most one task goes from where
it stood to where it comes to rest, a process exits, or an exit is noticed. -/

namespace Datapack.Machine

open Diagnostic Text

namespace State

/-! ### Launches -/

/-- A session with a root launches its compiler by a supervisor of its own. -/
theorem launchCompiler_eq {s : State} {q : Session} {root : Path} (hs : s.session = some q)
    (hroot : q.root = some root) (t : TaskId) (stage : LaunchStage) :
    let argv := q.settings.residentCommand root.toText
    let sup : Supervisor :=
      { settings := q.settings, root, limit := longestLine, sink := .session s.generation }
    s.launchCompiler t stage =
      (s.emit (.info ("Launching compiler: " ++ String.intercalate " " argv))).ask t sup stage := by
  have hlast (l : List Supervisor) (sup : Supervisor) (f : Supervisor → Supervisor) :
      (l ++ [sup]).modify l.length f = l ++ [f sup] := by
    induction l with
    | nil => rfl
    | cons _ l ih => simp [ih]
  simp [launchCompiler, hs, hroot, beginLaunch, aliveProcess?, emit, modifySupervisor, setTask, ask,
    hlast]

variable {e : Event} {t : TaskId} {request : Request} {task : Task} {s : State}

theorem goes_closeLaunch {stage : LaunchStage} (hq : task.isFlushing = false)
    (h : Launches s t request stage) (r : Except Fault Answer) :
    Goes e t request task s (s.closeLaunch t stage r) := by
  cases h with
  | start root => cases r <;> exact .rest (.finish hq _)
  | restart hturn => exact .rest (.endPass hq hturn r)

theorem goes_launchCompiler {stage : LaunchStage} (hq : task.isFlushing = false)
    (h : Launches s t request stage) (hvacant : request = .restart → s.handle = none) :
    Goes e t request task s (s.launchCompiler t stage) := by
  cases hs : s.session with
  | none =>
      have hnone : s.launchCompiler t stage = s.closeLaunch t stage (.ok (.flag false)) := by
        simp [launchCompiler, hs]
      rw [hnone]
      exact goes_closeLaunch hq h _
  | some q =>
      cases hroot : q.root with
      | none =>
          have hnone : s.launchCompiler t stage = s.closeLaunch t stage (.ok (.flag false)) := by
            simp [launchCompiler, hs, hroot]
          rw [hnone]
          exact goes_closeLaunch hq h _
      | some root =>
          rw [launchCompiler_eq hs hroot]
          refine .move (.tell (.emit s rfl) rfl (.inr rfl))
            (.rest (.ask hq (h.imp id) ?_ rfl ⟨rfl, rfl⟩ hvacant))
          simp [State.root, emit, hs, hroot]

/-! ### Stops -/

theorem goes_failStop {stage : StopStage} (hq : task.isFlushing = false)
    (h : Stops s t request stage) (e' : Fault) :
    Goes e t request task s (s.failStop t stage e') := by
  cases h with
  | close => exact .rest (.finish hq _)
  | restart hturn => exact .rest (.endPass hq hturn _)

theorem goes_afterStop {i : SupervisorId} {stage : StopStage} (hq : task.isFlushing = false)
    (h : Stops s t request stage) (hfree : s.processOf? i = none)
    (hmine : s.handle = some i ∨ task.supervisor? = some i) :
    Goes e t request task s (s.afterStop t stage) := by
  have hnone : (s.setHandle none).clearStream.handle = none := by
    rw [(Tells.clearStream _).handle_eq, handle_setHandle_none]
  cases h with
  | close =>
      exact .move (.drop hfree hmine)
        (.move (.tell (.clearStream _) rfl (.inr (store?_clearStream _))) (.rest (.finish hq _)))
  | restart hturn =>
      refine .move (.drop hfree hmine)
        (.move (.tell (.clearStream _) rfl (.inr (store?_clearStream _))) ?_)
      refine goes_launchCompiler hq (.restart ?_) fun _ => hnone
      rw [(Tells.clearStream _).turn_eq, turn_setHandle, hturn]

theorem goes_letGo {i : SupervisorId} {stage : StopStage} (hq : task.isFlushing = false)
    (h : Stops s t request stage) (hstopping : s.stopping i) (hdead : s.Dead i)
    (hmine : s.handle = some i ∨ task.supervisor? = some i) :
    Goes e t request task s (s.letGo t i stage) := by
  refine .move (.detach hstopping hdead)
    (.move (.tell (.emit _ (e := .info "Compiler stopped") rfl) rfl (.inr rfl)) ?_)
  refine goes_afterStop (i := i) hq (h.imp id) ?_ hmine
  exact (processOf?_detach s i i).trans (if_pos rfl)

/-- A reader that is cancelled changes nothing about who looks after the process. -/
theorem dead_cancelReaders {i : SupervisorId} (h : s.Dead i) (p : ProcessId) :
    (s.cancelReaders p).Dead i := by
  obtain ⟨p', howner, hdead⟩ := h
  refine ⟨p', ?_, ?_⟩
  · rw [← howner]
    simp only [ownerOf?, cancelReaders, modifyProcess, List.getElem?_modify]
    split <;> cases s.processes[p']? <;> rfl
  · rw [← hdead]
    simp only [isAlive, cancelReaders, modifyProcess, List.getElem?_modify]
    split <;> cases s.processes[p']? <;> rfl

theorem goes_beginReap {i : SupervisorId} {stage : StopStage} (hq : task.isFlushing = false)
    (h : Stops s t request stage) (hstopping : s.stopping i) (hdead : s.Dead i)
    (hmine : s.handle = some i ∨ task.supervisor? = some i) :
    Goes e t request task s (s.beginReap t i stage) := by
  unfold beginReap
  split
  · exact goes_letGo hq h hstopping hdead hmine
  · next p _ =>
      split
      · refine .move (.unwatch p) (goes_failStop hq ?_ _)
        exact h.imp id
      · refine .move (.unwatch p) (.rest (.stop hq hmine rfl ?_ nofun))
        exact .reaping (h.imp id) hstopping (dead_cancelReaders hdead p)
      · split
        · exact .rest (.stop hq hmine rfl (.reaping h hstopping hdead) nofun)
        · exact goes_letGo hq h hstopping hdead hmine

theorem goes_endReap {i : SupervisorId} {stage : StopStage} (hq : task.isFlushing = false)
    (h : Stops s t request stage) (hstopping : s.stopping i) (hdead : s.Dead i)
    (hmine : s.handle = some i ∨ task.supervisor? = some i) (p : ProcessId) :
    Goes e t request task s (s.endReap t i p stage) := by
  unfold endReap
  split
  · exact goes_failStop hq h _
  · exact goes_letGo hq h hstopping hdead hmine

theorem goes_beginStop {asked : List Request} (hs : Disciplined asked s) {i : SupervisorId}
    {stage : StopStage} (hq : task.isFlushing = false) (h : Stops s t request stage)
    (hhandle : s.handle = some i) : Goes e t request task s (s.beginStop t i stage) := by
  unfold beginStop
  cases hp : s.processOf? i with
  | none =>
      simp only [processOf?] at hp
      simp only [hp]
      exact goes_afterStop hq h hp (.inl hhandle)
  | some p =>
      have howner := hs.process hp
      have hi : i < s.supervisors.length := by
        obtain ⟨sup, hsup, _⟩ := Option.bind_eq_some_iff.mp hp
        exact (List.getElem?_eq_some_iff.mp hsup).1
      have hstopping : (s.halt i).stopping i := by simp [stopping_halt hi]
      simp only [processOf?] at hp
      simp only [hp]
      refine .move (.halt hhandle) ?_
      split
      · refine .move (.signal p .terminate) (.rest (.stop hq (.inl hhandle) rfl ?_ (by simp)))
        exact .exiting (h.imp id) hstopping howner
      · next hdead =>
          rw [Bool.not_eq_true] at hdead
          exact goes_beginReap hq (h.imp id) hstopping ⟨p, howner, hdead⟩ (.inl hhandle)

/-- Without a process the session has no compiler, or the failure comes up. -/
theorem afterLaunch_error_cases {i : SupervisorId} {stage : LaunchStage} (hstage : stage ≠ .direct)
    (fault : Fault) :
    (∃ text, s.afterLaunch t i stage (.error fault) =
      ((s.emit (.failure text fault)).setHandle none).closeLaunch t stage (.ok (.flag false))) ∨
    s.afterLaunch t i stage (.error fault) = s.closeLaunch t stage (.error fault) := by
  unfold afterLaunch
  split
  · exact absurd rfl hstage
  · next heq => cases heq
  · next heq =>
      cases heq
      exact .inl ⟨_, rfl⟩
  · next heq =>
      cases heq
      exact .inr rfl

theorem goes_launched {asked : List Request} (hs : Disciplined asked s)
    (hrequest : asked[t]? = some request) {i : SupervisorId} {stage : LaunchStage}
    (htask : s.tasks[t]? = some (.launching i stage)) (result : Except Fault Unit) :
    Goes e t request (.launching i stage) s (s.launched t i stage result) := by
  cases hs.allowed hrequest htask with
  | launching hlaunches hi =>
      cases result with
      | ok _ =>
          have hsup := List.getElem?_eq_getElem hi.1
          simp only [launched, hsup]
          refine .move (.tell (.emit s
            (e := .info ("Compiler started (pid " ++ shownPid ++ ")")) rfl) rfl (.inr rfl)) ?_
          cases hlaunches with
          | start root => exact .rest (.adopt rfl (.start root) rfl rfl)
          | restart hturn => exact .rest (.adopt rfl (.restart hturn) rfl rfl)
      | error fault =>
          have hstage : stage ≠ .direct := by
            rintro rfl
            cases hlaunches
          have hfailed : s.launched t i stage (.error fault) =
              s.afterLaunch t i stage (.error fault) := rfl
          rw [hfailed]
          rcases afterLaunch_error_cases hstage fault with ⟨text, hnone⟩ | hfault
          · rw [hnone]
            refine .move (.tell (.emit s (e := .failure text fault) rfl) rfl (.inr rfl))
              (.move (.drop (i := i) (hs.processOf?_eq_none hi) (.inr rfl)) ?_)
            refine goes_closeLaunch rfl (hlaunches.imp ?_) _
            exact fun hturn => (turn_setHandle _ _).trans hturn
          · rw [hfault]
            exact goes_closeLaunch rfl hlaunches _

/-! ### Commands -/

theorem beginSend_eq_send {i : SupervisorId} {p : ProcessId}
    (halive : s.aliveProcess? i = some p)
    (hfree : ∀ sup, s.supervisors[i]? = some sup → sup.writeLock = {}) (t : TaskId)
    (command : String) (stage : SendStage) :
    s.beginSend t i command stage = s.send t i p command stage := by
  rw [aliveProcess?_eq_some_iff] at halive
  obtain ⟨sup, hsup, hp⟩ := Option.bind_eq_some_iff.mp halive.1
  rw [beginSend_eq hsup hp halive.2 (by rw [hfree sup hsup])]
  rfl

/-- A command for a process that does not run fails at once. -/
theorem beginSend_eq_failSend {i : SupervisorId} (hi : i < s.supervisors.length)
    (hdead : s.aliveProcess? i = none)
    (hfree : ∀ sup, s.supervisors[i]? = some sup → sup.writeLock = {}) (t : TaskId)
    (command : String) (stage : SendStage) :
    s.beginSend t i command stage = s.failSend t stage .notRunning := by
  have hsup := List.getElem?_eq_getElem hi
  have hlock := hfree _ hsup
  generalize hacquired : (s.modifySupervisor i fun q =>
    { q with writeLock := q.writeLock.acquire t }) = s₁
  have howner : s₁.supervisors[i]?.bind (·.writeLock.owner) = some t := by
    simp [← hacquired, modifySupervisor, hsup, hlock, Lock.acquire]
  have hdead₁ : s₁.aliveProcess? i = none := by
    rw [← hdead, ← hacquired, aliveProcess?_modifySupervisor]
    exact fun _ => rfl
  have hreleased : s₁.releaseWrite i = s := by
    have hsame : (s₁.releaseWrite i).supervisors = s.supervisors := by
      apply List.ext_getElem?
      intro n
      simp only [← hacquired, releaseWrite, modifySupervisor, List.getElem?_modify]
      by_cases hn : i = n
      · subst hn
        simp [hsup, hlock, Lock.acquire, Lock.release]
        exact congrArg (fun lock => { s.supervisors[i] with writeLock := lock }) hlock.symm
      · simp [hn]
    calc s₁.releaseWrite i
      _ = { s with supervisors := (s₁.releaseWrite i).supervisors } := by rw [← hacquired]; rfl
      _ = s := by rw [hsame]
  simp only [beginSend, hacquired, howner, if_true, writeCommand, hdead₁, hreleased]

theorem goes_failSend {i : SupervisorId} {p : ProcessId} {command command' : String}
    {stage stage' : SendStage} (hsends : Sends request stage' command') (hturn : s.turn = some t)
    (hsilent : stage = .saveOutput → e ≠ .flushed t .done) (fault : Fault) :
    Goes e t request (.flushing i p command stage) s
      ((s.releaseWrite i).failSend t stage' fault) := by
  have hfailed (text : String) : Goes e t request (.flushing i p command stage) s
      (((s.emit (.failure text fault)).releaseWrite i).endPass t (.ok .nothing)) := by
    refine .move (.tell (.emit s (e := .failure text fault) rfl) rfl (.inr rfl)) (.rest ?_)
    refine .flushed rfl ?_ hsilent _
    exact hturn
  cases hsends <;> exact hfailed _

/-- The second command of a pass, if its compiler still runs. -/
theorem goes_beginSend {asked : List Request} (hs : Disciplined asked s)
    (hrequest : asked[t]? = some request) {i : SupervisorId} {p : ProcessId}
    {command path : String} {stage stage' : SendStage}
    (htask : s.tasks[t]? = some (.flushing i p command stage))
    (hsends : Sends request stage' (compileCommand path))
    (hrecorded : stage = .saveErrors ∧ s.outputPath = some path ∧ path ≠ "" ∨
      stage = .compileErrors path) :
    Goes e t request (.flushing i p command stage) s
      ((s.releaseWrite i).beginSend t i (compileCommand path) stage') := by
  cases hs.allowed hrequest htask with
  | flushing _ hturn howner =>
      have hrunning : (s.releaseWrite i).aliveProcess? i = s.aliveProcess? i := by
        rw [releaseWrite, aliveProcess?_modifySupervisor]
        exact fun _ => rfl
      cases halive : s.aliveProcess? i with
      | some p' =>
          rw [halive] at hrunning
          rw [beginSend_eq_send hrunning fun _ => hs.releaseWrite_free]
          have hp' := (aliveProcess?_eq_some_iff.mp halive).1
          obtain rfl : p = p' := hs.single howner (hs.process hp')
          exact .rest (.compiles rfl halive hturn hsends hrecorded)
      | none =>
          rw [halive] at hrunning
          have hi : i < (s.releaseWrite i).supervisors.length := by
            obtain ⟨q, hq, _⟩ := Option.bind_eq_some_iff.mp howner
            obtain ⟨j, hj, howner'⟩ := hs.owned p (List.getElem?_eq_some_iff.mp hq).1
            rw [howner, Option.some.injEq] at howner'
            simpa [releaseWrite, modifySupervisor, howner'] using hj
          rw [beginSend_eq_failSend hi hrunning fun _ => hs.releaseWrite_free]
          refine goes_failSend hsends hturn ?_ _
          rintro rfl
          rcases hrecorded with ⟨heq, _⟩ | heq <;> cases heq

theorem goes_flushed {asked : List Request} (hs : Disciplined asked s)
    (hrequest : asked[t]? = some request) {i : SupervisorId} {p : ProcessId}
    {command : String} {stage : SendStage}
    (htask : s.tasks[t]? = some (.flushing i p command stage)) (flush : Flush) :
    Goes (.flushed t flush) t request (.flushing i p command stage) s
      (s.flushed t i p command stage flush) := by
  have hallowed := hs.allowed hrequest htask
  cases hallowed with
  | flushing hsends hturn howner =>
      cases flush with
      | done =>
          have hends (hstage : stage ≠ .saveOutput) : Goes (.flushed t .done) t request
              (.flushing i p command stage) s ((s.releaseWrite i).endPass t (.ok .nothing)) :=
            .rest (.flushed rfl hturn (fun heq => absurd heq hstage) _)
          cases hsends with
          | saveErrors uri =>
              have hpath : (s.releaseWrite i).session.bind (·.outputPath) = s.outputPath := rfl
              simp only [State.flushed, afterSend, hpath]
              split
              · next path hrecorded =>
                  split
                  · exact hends (by simp)
                  · next hpath' =>
                      refine goes_beginSend hs hrequest htask (.saveOutput uri path)
                        (.inl ⟨rfl, hrecorded, ?_⟩)
                      rintro rfl
                      exact hpath' rfl
              · exact hends (by simp)
          | saveOutput uri path => exact .rest (.reloads rfl hturn rfl _)
          | compileErrors path =>
              exact goes_beginSend hs hrequest htask (.compileOutput path) (.inr rfl)
          | compileOutput path => exact hends (by simp)
      | closed =>
          refine goes_failSend hsends hturn ?_ _
          rintro _ ⟨⟩
      | timeout =>
          have hkilled (text : String) (fault : Fault) : Goes (.flushed t .timeout) t request
              (.flushing i p command stage) s
              ((((s.emit (.error text)).emit (.signal p .kill)).releaseWrite i).failSend t stage
                fault) := by
            refine .move (.tell (.emit s (e := .error text) rfl) rfl (.inr rfl))
              (.move (.signal p .kill) ?_)
            refine goes_failSend hsends ?_ ?_ _
            · exact hturn
            · rintro _ ⟨⟩
          exact hkilled _ _

/-! ### Passes -/

theorem goes_commandPass {asked : List Request} (hs : Disciplined asked s)
    (htask : s.tasks[t]? = some task) (hq : task.isFlushing = false) (hturn : s.turn = some t)
    {i : SupervisorId} (hrunning : s.runningCompiler? = some i) {stage : SendStage}
    (hsends : Sends request stage errorsCommand) :
    Goes e t request task s (s.commandPass t i request.cleared stage) := by
  obtain ⟨p, halive⟩ := Option.isSome_iff_exists.mp (runningCompiler?_eq_some_iff.mp hrunning).2
  unfold commandPass
  rcases hopened : s.openPass request.cleared with ⟨s₁, result⟩
  obtain ⟨htells, htasks⟩ := Tells.of_openPass hopened
  cases result with
  | ok _ =>
      have hsend : s₁.beginSend t i errorsCommand stage = s₁.send t i p errorsCommand stage := by
        refine beginSend_eq_send ((htells.aliveProcess?_eq i).trans halive) ?_ t _ stage
        intro sup hsup
        refine (hs.tells htells htasks).write_free (htells.turn_eq.trans hturn) (htasks ▸ htask) ?_
          hsup
        rintro i p command stage rfl
        cases hq
      simp only [hsend]
      exact .rest (.opens hq hturn hopened halive hsends)
  | error fault => exact .rest (.refused hq hturn hopened _)

theorem goes_runJob {asked : List Request} (hs : Disciplined asked s)
    (htask : s.tasks[t]? = some task) (hq : task.isFlushing = false) (hturn : s.turn = some t)
    {job : Job} (hjob : request.job? = some job) :
    Goes e t request task s (s.runJob t job) := by
  obtain ⟨q, hsession, hmode⟩ := hs.resident
  have hends (effect : Effect) (heffect : effect.tells) :
      Goes e t request task s ((s.emit effect).endPass t (.ok .nothing)) := by
    refine .move (.tell (.emit s heffect) rfl (.inr rfl)) (.rest (.endPass hq ?_ _))
    exact hturn
  unfold runJob
  simp only [hsession]
  cases job with
  | save uri =>
      obtain rfl : request = .save uri := by cases request <;> cases hjob; rfl
      simp only [savePass, hmode]
      split
      · exact hends _ rfl
      · next i hrunning =>
          refine .move (.tell (.emit s (e := .info ("Recompiling after save of " ++ uri)) rfl) rfl
            (.inr rfl)) ?_
          exact goes_commandPass (hs.emit _) htask hq hturn hrunning (.saveErrors uri)
  | compile =>
      obtain rfl : request = .compile := by cases request <;> cases hjob; rfl
      simp only [compilePass, hmode]
      split
      · next i root hrunning _ =>
          exact goes_commandPass hs htask hq hturn hrunning (.compileErrors _)
      · exact hends _ rfl
  | restart =>
      obtain rfl : request = .restart := by cases request <;> cases hjob; rfl
      simp only [restartPass]
      split
      · next i hcompiler =>
          refine goes_beginStop hs hq (.restart hturn) ?_
          simp [handle, hsession, hcompiler]
      · next hcompiler =>
          refine .move (.tell (.clearStream s) rfl (.inr (store?_clearStream s)))
            (goes_launchCompiler hq (.restart ?_) fun _ => ?_)
          · rw [(Tells.clearStream s).turn_eq, hturn]
          · rw [(Tells.clearStream s).handle_eq]
            simp [handle, hsession, hcompiler]

theorem goes_beginJob {asked : List Request} (hs : Disciplined asked s)
    (htask : s.tasks[t]? = some task) (hq : task.isFlushing = false) {job : Job}
    (hjob : request.job? = some job) : Goes e t request task s (s.beginJob t job) := by
  unfold beginJob
  simp only
  refine .move .acquire ?_
  split
  · next hturn => exact goes_runJob (hs.acquire t) htask hq hturn hjob
  · exact .rest (.wait hq hjob)

/-! ### Requests -/

/-- A request goes from a task that has nothing to do yet. -/
theorem goes_call {asked : List Request} (hs : Disciplined asked s) (hsession : request.ofSession) :
    Goes (.call request) s.tasks.length request (.finished (.ok .nothing))
      { s with tasks := s.tasks ++ [.finished (.ok .nothing)] } (s.call request) := by
  have hnew := hs.addTask request (.ok .nothing)
  have htask : (s.tasks ++ [Task.finished (.ok .nothing)])[s.tasks.length]? =
      some (.finished (.ok .nothing)) := by simp
  obtain ⟨q, hq, hmode⟩ := hs.resident
  cases request with
  | start root =>
      simp only [call, startSession, hq, hmode]
      refine .move (.root root rfl) ?_
      cases root with
      | none => exact .move (.tell (.emit _ rfl) rfl (.inl rfl)) (.rest (.finish rfl _))
      | some root => exact goes_launchCompiler rfl (.start _) (by simp)
  | restart =>
      have hjob : s.call .restart = beginJob
          { s with tasks := s.tasks ++ [.finished (.ok .nothing)] } s.tasks.length .restart := by
        simp only [call, beginRestart, hq, hmode]
      rw [hjob]
      exact goes_beginJob hnew htask rfl (rfl : Request.restart.job? = some .restart)
  | close =>
      simp only [call, closeSession]
      split
      · next i hhandle => exact goes_beginStop hnew rfl .close hhandle
      · exact .move (.tell (.clearStream _) rfl (.inl rfl)) (.rest (.finish rfl _))
  | kill => exact .rest (.kill rfl rfl _)
  | save uri =>
      exact goes_beginJob hnew htask rfl (rfl : (Request.save uri).job? = some (.save uri))
  | compile =>
      exact goes_beginJob hnew htask rfl (rfl : Request.compile.job? = some .compile)
  | gameStarted path =>
      exact .move (.tell (.emit _ rfl) rfl (.inl rfl))
        (.move (.record (some path) rfl) (.rest (.finish rfl _)))
  | gameStopped =>
      exact .move (.tell (.emit _ rfl) rfl (.inl rfl))
        (.move (.record none rfl) (.rest (.finish rfl _)))
  | closeDocument uri =>
      have htells := Tells.closeDocument
        { s with tasks := s.tasks ++ [.finished (.ok .nothing)] } uri
      have htasks := tasks_closeDocument
        { s with tasks := s.tasks ++ [.finished (.ok .nothing)] } uri
      simp only [call]
      generalize State.closeDocument _ uri = closed at htells htasks ⊢
      obtain ⟨s₁, result⟩ := closed
      cases result <;> exact .move (.tell htells htasks (.inl rfl)) (.rest (.finish rfl _))
  | _ => cases hsession

/-! ### Shutdowns -/

theorem killSession_of_none (h : s.handle = none) : s.killSession = s.clearStream := by
  rw [handle] at h
  simp only [killSession, h]

/-- The process of the session's compiler is killed, if it is alive, and the session has no compiler
any more. -/
theorem killSession_of_some {i : SupervisorId} (h : s.handle = some i) :
    (∃ p, s.aliveProcess? i = some p ∧
      s.killSession = (((s.halt i).emit (.signal p .kill)).setHandle none).clearStream) ∨
    s.aliveProcess? i = none ∧ s.killSession = (s.setHandle none).clearStream := by
  rw [handle] at h
  simp only [killSession, h, killSupervised]
  cases s.aliveProcess? i with
  | none => exact .inr ⟨rfl, rfl⟩
  | some p => exact .inl ⟨p, rfl, rfl⟩

theorem processes_killSession (s : State) : s.killSession.processes = s.processes := by
  cases hhandle : s.handle with
  | none => rw [killSession_of_none hhandle]; rfl
  | some i =>
      rcases killSession_of_some hhandle with ⟨p, _, hkill⟩ | ⟨_, hkill⟩ <;> rw [hkill] <;> rfl

/-! ### Events -/

theorem ownerOf?_unwatch (s : State) (p p' : ProcessId) :
    (s.unwatch p).ownerOf? p' = s.ownerOf? p' := by
  rw [unwatch, ownerOf?_modifyProcess]
  exact fun _ => rfl

theorem isAlive_of_unwatch {s : State} {p p' : ProcessId} (h : (s.unwatch p).isAlive p') :
    s.isAlive p' := by
  refine s.isAlive_of_modifyProcess p ?_ h
  exact fun _ halive => halive

theorem watched_unwatch {s : State} {p p' : ProcessId} (h : (s.unwatch p).watched p') :
    p' ≠ p ∧ s.watched p' := by
  simp only [watched, unwatch, modifyProcess, List.getElem?_modify] at h ⊢
  cases hp : s.processes[p']? with
  | none => simp [hp] at h
  | some q =>
      rw [hp] at h
      split at h
      · simp at h
      · next hne => exact ⟨fun heq => hne heq.symm, by simpa using h⟩

theorem stopping_forget (s : State) (i : SupervisorId) (p : ProcessId) (j : SupervisorId) :
    (s.forget i p).stopping j = s.stopping j := by
  rw [forget, stopping_modifySupervisor]
  intro q
  split <;> rfl

theorem handExit_session (s : State) (code : Int) :
    s.handExit (.session s.generation) code = (s.setHandle none).clearStream := by
  simp [handExit, modifySessionOf, clearStreamOf, generation, clearStream, setHandle, modifySession]

/-- The session has no compiler any more when an exit is reported to it. -/
theorem tells_noticed (s : State) (i : SupervisorId) (p : ProcessId) {es : List Effect}
    (hes : ∀ e ∈ es, e.tells) {warning : Effect} (hwarning : warning.tells) (code : Int) :
    Tells (((s.unwatch p).forget i p).setHandle none)
      (((((s.unwatch p).emitAll es).emit warning).forget i p).handExit (.session s.generation)
        code) := by
  have htold := ((Tells.emitAll (((s.unwatch p).forget i p).setHandle none) hes).trans
    (.emit _ hwarning)).trans (.clearStream _)
  rw [emitAll_eq] at htold ⊢
  have hexit := handExit_session
    ((({ s.unwatch p with trace := (s.unwatch p).trace ++ es.toArray }).emit warning).forget i p)
    code
  exact hexit ▸ htold

end State

/-- What an event can do to a session. -/
inductive Happens (asked : List Request) (e : Event) (s : State) : State → Prop where
  | tells {s' : State} (event : e.request? = none) (tells : Tells s s')
      (tasks : s'.tasks = s.tasks) : Happens asked e s s'
  | exits {p : ProcessId} {f : Process → Process} (event : e.request? = none) (alive : s.isAlive p)
      (owner : ∀ q, (f q).owner = q.owner) (dies : ∀ q, (f q).isAlive = false)
      (watched : ∀ q, (f q).watched = q.watched) : Happens asked e s (s.modifyProcess p f)
  | unwatched {s' : State} (event : e.request? = none) (p : ProcessId)
      (tells : Tells (s.unwatch p) s') (tasks : s'.tasks = s.tasks) : Happens asked e s s'
  | noticed {s' : State} {p : ProcessId} {i : SupervisorId} (event : e.request? = none)
      (watched : s.watched p) (owner : s.ownerOf? p = some i) (dead : s.isAlive p = false)
      (runs : s.stopping i = false)
      (tells : Tells (((s.unwatch p).forget i p).setHandle none) s') (tasks : s'.tasks = s.tasks) :
      Happens asked e s s'
  | goes {s' : State} {t : TaskId} {request : Request} {task : Task} (event : e.task? = some t)
      (asks : asked[t]? = some request) (stands : s.tasks[t]? = some task)
      (waits : task.isFinished = false)
      (goes : Goes e t request task s s') : Happens asked e s s'
  | calls {s' : State} {request : Request} (event : e = .call request)
      (goes : Goes e s.tasks.length request (.finished (.ok .nothing))
        { s with tasks := s.tasks ++ [.finished (.ok .nothing)] } s') : Happens asked e s s'

namespace Disciplined

variable {asked : List Request} {s : State}

theorem notice_cases (h : Disciplined asked s) (p : ProcessId) :
    Happens asked (.notice p) s (s.noticeExit p) := by
  rcases s.noticeExit_cases p with ⟨hsame, _⟩ | ⟨q, code, i, sup, hdue⟩
  · rw [hsame]
    exact .tells rfl (.refl s) rfl
  · have hfailures := Tells.readerFailures q
    rw [State.noticeExit_eq hdue]
    split
    · exact .unwatched rfl p (.emitAll (s.unwatch p) hfailures) (State.tasks_emitAll _ _)
    · next hstopping =>
        rw [h.sinks sup (List.mem_of_getElem? hdue.supervisor)]
        refine .noticed (p := p) (i := i) rfl ?_ ?_ ?_ ?_
          (State.tells_noticed s i p hfailures rfl code) ?_
        · simpa [State.watched, hdue.process] using hdue.watched
        · simp [State.ownerOf?, hdue.process, hdue.owner]
        · simp [State.isAlive, hdue.process, Process.isAlive, hdue.exited]
        · simpa [State.stopping, hdue.supervisor] using hstopping
        · simp [State.unwatch, State.forget]

/-- A task goes on when the event comes that it waits for. -/
theorem goes_of_resumes (h : Disciplined asked s) {e : Event} {t : TaskId} {request : Request}
    {task : Task} {s' : State} (hrequest : asked[t]? = some request)
    (htask : s.tasks[t]? = some task) (hresumes : Resumes s t task e s') :
    Goes e t request task s s' := by
  have hallowed := h.allowed hrequest htask
  cases hresumes with
  | turn job howns =>
      cases hallowed with
      | waiting hjob => exact State.goes_runJob h htask rfl howns hjob
  | reaped i p stage =>
      cases hallowed with
      | reaping hstops hstopping hdead =>
          exact State.goes_endReap rfl hstops hstopping hdead (.inr rfl) _
  | launched i stage result => exact State.goes_launched h hrequest htask result
  | flushed i p command stage flush => exact State.goes_flushed h hrequest htask flush
  | exited i p killed stage hdead =>
      cases hallowed with
      | exiting hstops hstopping howner =>
          exact State.goes_beginReap rfl hstops hstopping ⟨p, howner, hdead⟩ (.inr rfl)
  | stubborn i p stage =>
      cases hallowed with
      | exiting hstops hstopping howner =>
          have hwarns : Tells s (s.emit (.warning
              ("Compiler did not terminate, killing pid " ++ State.shownPid))) := .emit s rfl
          refine .move (.tell hwarns rfl (.inr rfl)) (.move (.signal p .kill) (.rest ?_))
          exact .stop rfl (.inr rfl) rfl (.exiting (hstops.imp id) hstopping howner) (by simp)
  | _ => cases hallowed

/-- Everything that an event of a session can do. -/
theorem step_cases (h : Disciplined asked s) {e : Event} (he : e.ofSession) :
    Happens asked e s (s.step e) := by
  have hstay (hcall : e.request? = none) : Happens asked e s s := .tells hcall (.refl s) rfl
  cases htask : e.task? with
  | some t =>
      rcases State.step_resumes htask with hsame | ⟨task, hstands, hresumes⟩
      · rw [hsame]
        exact hstay (by cases e <;> cases htask <;> rfl)
      · obtain ⟨request, hrequest, _⟩ := h.request_of_task hstands
        have hwaits : task.isFinished = false := by
          cases task <;> first | rfl | exact absurd hresumes Resumes.not_finished
        exact .goes htask hrequest hstands hwaits (h.goes_of_resumes hrequest hstands hresumes)
  | none =>
      cases e with
      | call request => exact .calls rfl (State.goes_call h he)
      | read p name => exact .tells rfl (.read s p name) (State.tasks_read s p name)
      | notice p => exact h.notice_cases p
      | output p name bytes =>
          simp only [State.step]
          split
          · exact .tells rfl (.setOutput s p name _) rfl
          · exact hstay rfl
      | exit p code =>
          simp only [State.step]
          split
          · next halive => exact .exits rfl halive (fun _ => rfl) (fun _ => rfl) (fun _ => rfl)
          · exact hstay rfl
      | breakOutput p name => exact .tells rfl (.setOutput s p name _) rfl
      | writeFile path bytes =>
          simp only [State.step]
          split
          · exact .tells rfl ⟨rfl, rfl, rfl, rfl, [], by simp, by simp⟩ rfl
          · exact hstay rfl
      | _ => cases htask

variable {s' : State}

theorem unwatch (h : Disciplined asked s) (p : ProcessId) : Disciplined asked (s.unwatch p) :=
  h.modifyProcess p (fun _ => rfl) fun _ halive => halive

theorem forget (h : Disciplined asked s) (i : SupervisorId) (p : ProcessId) :
    Disciplined asked (s.forget i p) := by
  refine h.modifySupervisor i ?_ ?_ ?_ fun q hq => ?_
  · intro q
    split <;> rfl
  · intro q hstops
    split <;> exact hstops
  · intro q
    split
    · exact .inl rfl
    · exact .inr rfl
  · have hwrites := h.writes hq
    split <;> exact hwrites

theorem goes {e : Event} {t : TaskId} {request : Request} {task : Task} (h : Disciplined asked s)
    (hrequest : asked[t]? = some request) (htask : s.tasks[t]? = some task)
    (hgoes : Goes e t request task s s') : Disciplined asked s' := by
  induction hgoes with
  | move hmoves _ ih => exact ih (h.moves hmoves) (hmoves.tasks_eq ▸ htask)
  | rest hrests => exact h.rests hrequest htask hrests

theorem happens {e : Event} (h : Disciplined asked s) (hhappens : Happens asked e s s') :
    Disciplined (asked ++ e.request?.toList) s' := by
  have hsame (hcall : e.request? = none) (h' : Disciplined asked s') :
      Disciplined (asked ++ e.request?.toList) s' := by simpa [hcall] using h'
  cases hhappens with
  | tells hcall htells htasks => exact hsame hcall (h.tells htells htasks)
  | exits hcall _ howner hdies _ =>
      exact hsame hcall (h.modifyProcess _ howner fun q halive => by simp [hdies] at halive)
  | unwatched hcall p htells htasks =>
      exact hsame hcall ((h.unwatch p).tells htells htasks)
  | noticed hcall _ _ _ _ htells htasks =>
      exact hsame hcall ((((h.unwatch _).forget _ _).setHandle none).tells htells htasks)
  | goes hevent hrequest htask _ hgoes =>
      exact hsame (by cases e <;> cases hevent <;> rfl) (h.goes hrequest htask hgoes)
  | calls hevent hgoes =>
      subst hevent
      refine (h.addTask _ _).goes ?_ ?_ hgoes
      · simp [h.asks]
      · simp

theorem step (h : Disciplined asked s) {e : Event} (he : e.ofSession) :
    Disciplined (asked ++ e.request?.toList) (s.step e) :=
  h.happens (h.step_cases he)

theorem run (h : Disciplined asked s) {events : List Event} (hevents : ∀ e ∈ events, e.ofSession) :
    Disciplined (asked ++ requests events) (s.run events) := by
  induction events generalizing s asked with
  | nil => simpa [State.run] using h
  | cons e events ih =>
      rw [List.forall_mem_cons] at hevents
      rw [requests_cons, ← List.append_assoc]
      exact ih (h.step hevents.1) hevents.2

end Disciplined

/-- A session before anything was asked of it. -/
def State.opened (session : Session) (files : FileTree) : State := { session := some session, files }

theorem disciplined_opened {session : Session} (hmode : session.settings.mode = .persistent)
    (files : FileTree) : Disciplined [] (State.opened session files) := by
  refine ⟨rfl, ⟨session, rfl, hmode⟩, ?_, ?_, ?_, ?_, ?_, ?_, ?_⟩
  all_goals simp [State.opened, State.ownerOf?, State.processOf?]

end Datapack.Machine
