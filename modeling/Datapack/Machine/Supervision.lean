import Datapack.Machine.Background

/-! Launching, stopping and commanding compilers. Each function runs a task from one point where it
waits to the next. -/

namespace Datapack.Machine.State

open Diagnostic Text

/-- The process id that is shown; processes here are told apart by their number. -/
def shownPid : String := "4242"

/-- The longest line of output that is passed on, in bytes. -/
def longestLine : Nat := 4194304

/-- Ends a pass: the compile lock goes on to the next one. -/
def endPass (s : State) (t : TaskId) (r : Except Fault Answer) : State :=
  (s.modifySession fun session => { session with lock := session.lock.release }).finish t r

/-- Starts a supervisor, unless its process runs: asks for a process and waits. -/
def beginLaunch (s : State) (t : TaskId) (i : SupervisorId) (stage : LaunchStage) : State :=
  match s.supervisors[i]? with
  | none => s
  | some sup =>
    if (s.aliveProcess? i).isSome then s.finish t (.ok .nothing)
    else
      let argv := sup.settings.residentCommand sup.root.toText
      let s := s.emit (.info ("Launching compiler: " ++ String.intercalate " " argv))
      let s := s.modifySupervisor i fun q => { q with stopping := false }
      (s.emit (.launch ⟨argv, none, sup.limit⟩)).setTask t (.launching i stage)

/-- Ends a task that launched a compiler for the session. -/
def closeLaunch (s : State) (t : TaskId) (stage : LaunchStage) (r : Except Fault Answer) : State :=
  match stage, r with
  | .restart, r => s.endPass t r
  | .start, .ok _ => s.finish t (.ok .nothing)
  | _, r => s.finish t r

/-- What follows a launch. The session takes the compiler only now; a launch that the operating
system refused is logged. -/
def afterLaunch (s : State) (t : TaskId) (i : SupervisorId) (stage : LaunchStage)
    (result : Except Fault Unit) : State :=
  match stage, result with
  | .direct, r => s.finish t (r.map fun () => .nothing)
  | _, .ok () =>
    (s.modifySession fun q => { q with compiler := some i }).closeLaunch t stage (.ok (.flag true))
  | _, .error (.os e) =>
    let s := s.emit (.failure "Could not launch compiler; diagnostics disabled" (.os e))
    (s.modifySession fun q => { q with compiler := none }).closeLaunch t stage (.ok (.flag false))
  | _, .error e => s.closeLaunch t stage (.error e)

/-- A process was created for a supervisor, or could not be. -/
def launched (s : State) (t : TaskId) (i : SupervisorId) (stage : LaunchStage)
    (result : Except Fault Unit) : State :=
  match result, s.supervisors[i]? with
  | .ok (), some sup =>
    let p := s.processes.length
    let launch : Launch := ⟨sup.settings.residentCommand sup.root.toText, none, sup.limit⟩
    let process : Process := { launch, owner := some i, watched := true }
    let s := { s with processes := s.processes ++ [process] }
    let s := s.modifySupervisor i fun q => { q with process := some p, tended := some p }
    (s.emit (.info ("Compiler started (pid " ++ shownPid ++ ")"))).afterLaunch t i stage (.ok ())
  | r, _ => s.afterLaunch t i stage r

/-- Launches a compiler for the session's root. Without a root there is none. -/
def launchCompiler (s : State) (t : TaskId) (stage : LaunchStage) : State :=
  match s.session.bind fun session => session.root.map fun root => (session, root) with
  | none => s.closeLaunch t stage (.ok (.flag false))
  | some (session, root) =>
    let i := s.supervisors.length
    let sup : Supervisor :=
      { settings := session.settings, root, limit := longestLine, sink := .session s.generation }
    { s with supervisors := s.supervisors ++ [sup] }.beginLaunch t i stage

/-- What follows a stop that was completed. -/
def afterStop (s : State) (t : TaskId) (stage : StopStage) : State :=
  let dropped := (s.modifySession fun q => { q with compiler := none }).clearStream
  match stage with
  | .direct => s.finish t (.ok .nothing)
  | .close => dropped.finish t (.ok .nothing)
  | .restart => dropped.launchCompiler t .restart

/-- What follows a stop that failed because a reader had failed. -/
def failStop (s : State) (t : TaskId) (stage : StopStage) (e : Fault) : State :=
  match stage with
  | .restart => s.endPass t (.error e)
  | _ => s.finish t (.error e)

/-- Cancels the readers and the exit watch of a process. -/
def cancelReaders (s : State) (p : ProcessId) : State :=
  let cancel (o : Output) : Output := if o.reader = .reading then { o with reader := .cancelled } else o
  s.modifyProcess p fun q =>
    { q with stdout := cancel q.stdout, stderr := cancel q.stderr, watched := false }

/-- Whether one of the readers of a process failed. -/
def readerFailed (s : State) (p : ProcessId) : Bool :=
  (s.processes[p]?.map fun q => q.stdout.reader == .failed || q.stderr.reader == .failed).getD false

/-- What is left of the readers and the exit watch of a process when they are cancelled. -/
inductive Remains where
  /-- A reader that failed, before anything that would have to be waited for. -/
  | failed
  /-- Something that still runs and has to be waited for. -/
  | running
  /-- Nothing. -/
  | nothing
deriving DecidableEq, Repr

/-- What goes on beside a process, looked at in order: its output readers, then its exit watch. -/
def remains (q : Process) : Remains :=
  match q.stdout.reader, q.stderr.reader with
  | .failed, _ => .failed
  | .reading, _ => .running
  | _, .failed => .failed
  | _, .reading => .running
  | _, _ => if q.watched then .running else .nothing

/-- The readers are gone: the supervisor lets go of its process. -/
def letGo (s : State) (t : TaskId) (i : SupervisorId) (stage : StopStage) : State :=
  let s := s.modifySupervisor i fun q => { q with process := none, tended := none }
  (s.emit (.info "Compiler stopped")).afterStop t stage

/-- The readers of a process that were waited for are gone. -/
def endReap (s : State) (t : TaskId) (i : SupervisorId) (p : ProcessId) (stage : StopStage) :
    State :=
  if s.readerFailed p then s.failStop t stage (.os .other) else s.letGo t i stage

/-- Whether a task waits for the cancelled readers of a process. -/
def isReaped (s : State) (p : ProcessId) : Bool :=
  s.tasks.any fun
    | .reaping _ q _ => q == p
    | _ => false

/-- The process that was to be stopped has exited: cancels what goes on beside the process that was
created last, and waits for it. -/
def beginReap (s : State) (t : TaskId) (i : SupervisorId) (stage : StopStage) : State :=
  match s.supervisors[i]?.bind (·.tended) with
  | none => s.letGo t i stage
  | some p =>
    match s.processes[p]?.map remains with
    | some .failed => (s.cancelReaders p).failStop t stage (.os .other)
    | some .running => (s.cancelReaders p).setTask t (.reaping i p stage)
    | _ => if s.isReaped p then s.setTask t (.reaping i p stage) else s.letGo t i stage

/-- Asks the process of a supervisor to end, and waits. -/
def beginStop (s : State) (t : TaskId) (i : SupervisorId) (stage : StopStage) : State :=
  match s.supervisors[i]?.bind (·.process) with
  | none => s.afterStop t stage
  | some p =>
    let s := s.modifySupervisor i fun q => { q with stopping := true }
    if s.isAlive p then (s.emit (.signal p .terminate)).setTask t (.exiting i p false stage)
    else s.beginReap t i stage

/-- The process did not end in time: it is killed. -/
def killStubborn (s : State) (t : TaskId) (i : SupervisorId) (p : ProcessId) (stage : StopStage) :
    State :=
  let s := s.emit (.warning ("Compiler did not terminate, killing pid " ++ shownPid))
  (s.emit (.signal p .kill)).setTask t (.exiting i p true stage)

/-- Kills the process of a supervisor without waiting. -/
def killSupervised (s : State) (i : SupervisorId) : State :=
  match s.aliveProcess? i with
  | none => s
  | some p => (s.modifySupervisor i fun q => { q with stopping := true }).emit (.signal p .kill)

/-- What follows a command that failed. -/
def failSend (s : State) (t : TaskId) (stage : SendStage) (e : Fault) : State :=
  match stage with
  | .direct => s.finish t (.error e)
  | .saveErrors | .saveOutput =>
    (s.emit (.failure "Recompile after save failed" e)).endPass t (.ok .nothing)
  | .compileErrors _ | .compileOutput =>
    (s.emit (.failure "Manual compile failed" e)).endPass t (.ok .nothing)

def releaseWrite (s : State) (i : SupervisorId) : State :=
  s.modifySupervisor i fun q => { q with writeLock := q.writeLock.release }

/-- What ends a command on the input of a compiler. -/
def commandEnd : String := "\r\n"

/-- What a task owns the write lock for: writes the command if the process runs, and waits. -/
def writeCommand (s : State) (t : TaskId) (i : SupervisorId) (command : String)
    (stage : SendStage) : State :=
  match s.aliveProcess? i with
  | none => (s.releaseWrite i).failSend t stage .notRunning
  | some p =>
    let s := s.emit (.debug ("compiler <- " ++ command))
    (s.emit (.write p (command ++ commandEnd))).setTask t (.flushing i p command stage)

/-- Sends a command when it is its turn. -/
def beginSend (s : State) (t : TaskId) (i : SupervisorId) (command : String)
    (stage : SendStage) : State :=
  let s := s.modifySupervisor i fun q => { q with writeLock := q.writeLock.acquire t }
  if (s.supervisors[i]?.bind (·.writeLock.owner)) = some t then s.writeCommand t i command stage
  else s.setTask t (.writeTurn i command stage)

/-- The command that compiles into a directory. -/
def compileCommand (output : String) : String := "/compile " ++ output

/-- The command that reports errors. -/
def errorsCommand : String := "/logerrors"

/-- What follows a command that was flushed. -/
def afterSend (s : State) (t : TaskId) (i : SupervisorId) (stage : SendStage) : State :=
  match stage with
  | .direct => s.finish t (.ok .nothing)
  | .saveErrors =>
    match s.session.bind (·.outputPath) with
    | some path =>
      if path.isEmpty then s.endPass t (.ok .nothing)
      else s.beginSend t i (compileCommand path) .saveOutput
    | none => s.endPass t (.ok .nothing)
  | .saveOutput => (s.emit (.notify .reloadServer)).endPass t (.ok .nothing)
  | .compileErrors output => s.beginSend t i (compileCommand output) .compileOutput
  | .compileOutput => s.endPass t (.ok .nothing)

/-- How the flush of a command ends. -/
inductive Flush where
  | done
  | closed
  | timeout
deriving DecidableEq, Repr

/-- The flush of a command has ended. A process that does not take its input is killed. -/
def flushed (s : State) (t : TaskId) (i : SupervisorId) (p : ProcessId) (command : String)
    (stage : SendStage) (flush : Flush) : State :=
  match flush with
  | .done => (s.releaseWrite i).afterSend t i stage
  | .closed => (s.releaseWrite i).failSend t stage .inputClosed
  | .timeout =>
    let seconds := (s.supervisors[i]?.map (·.settings.commandTimeout)).getD 0.0
    let s := s.emit (.error ("Compiler did not accept " ++ quoted command ++ " within " ++
      Decimal.onePlace seconds ++ "s, killing it"))
    ((s.emit (.signal p .kill)).releaseWrite i).failSend t stage (.sendTimeout command)

end Datapack.Machine.State
