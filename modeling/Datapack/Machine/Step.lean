import Datapack.Machine.Passes

/-! The machine's events. Any sequence of events is a run; an event that does not apply to the state
changes nothing. -/

namespace Datapack.Machine

open Diagnostic

/-- What can be asked for. Each request becomes a task. -/
inductive Request where
  | start (root : Option Path)
  | spawn
  | restart
  | close
  | kill
  | save (uri : String)
  | compile
  | gameStarted (path : String)
  | gameStopped
  | closeDocument (uri : String)
  | configure (settings : Settings)
  /-- Options that change the settings, if they are valid. -/
  | override (options : List (String × Json))
  /-- A command for the session's compiler. -/
  | command (text : String)
  /-- A start of the session's compiler as it is. -/
  | startAgain
  | supervisorStart (i : SupervisorId)
  | supervisorStop (i : SupervisorId)
  | supervisorKill (i : SupervisorId)
  | supervisorCommand (i : SupervisorId) (text : String)
  | runFolder (i : RunnerId) (folder : Path)
  | runAll (i : RunnerId) (folders : List Path)

inductive Event where
  /-- A request arrives; its task runs to the first point where it waits. -/
  | call (request : Request)
  /-- A task goes on that has got its turn, or whose cancelled readers are gone. -/
  | proceed (t : TaskId)
  /-- The operating system created the process a task waits for, or did not. -/
  | launched (t : TaskId) (result : Except Fault Unit)
  /-- The flush a task waits for has ended. -/
  | flushed (t : TaskId) (flush : State.Flush)
  /-- A task notices the exit it waits for. -/
  | exitSeen (t : TaskId)
  /-- The time a task gives a process to exit or finish is over. -/
  | timeout (t : TaskId)
  /-- Waiting for a one-shot process fails. -/
  | waitFailed (t : TaskId) (error : OsError)
  /-- The reader of an output goes on. -/
  | read (p : ProcessId) (name : OutputName)
  /-- The exit watch of a process goes on. -/
  | notice (p : ProcessId)
  /-- A process writes to an output. -/
  | output (p : ProcessId) (name : OutputName) (bytes : Text.Bytes)
  /-- A process exits. -/
  | exit (p : ProcessId) (code : Int)
  /-- Reading an output of a process will fail from now on. -/
  | breakOutput (p : ProcessId) (name : OutputName)
  /-- A process writes a file. -/
  | writeFile (path : Path) (bytes : Text.Bytes)

namespace State

/-- Ends a task that never waits. -/
def done (s : State) (t : TaskId) : State := s.finish t (.ok .nothing)

/-- Runs the task of a request to the first point where it waits. -/
def call (s : State) (request : Request) : State :=
  let t := s.tasks.length
  let s := { s with tasks := s.tasks ++ [Task.finished (.ok .nothing)] }
  match request with
  | .start root => s.startSession t root
  | .spawn => s.launchCompiler t .spawn
  | .restart => s.beginRestart t
  | .close => s.closeSession t
  | .kill => s.killSession.done t
  | .save uri => s.beginJob t (.save uri)
  | .compile => s.beginJob t .compile
  | .gameStarted path => (s.gameStarted path).done t
  | .gameStopped => s.gameStopped.done t
  | .closeDocument uri =>
    match s.closeDocument uri with
    | (s, .ok ()) => s.done t
    | (s, .error e) => s.finish t (.error e)
  | .configure settings => (s.modifySession fun q => { q with settings }).done t
  | .override options =>
    match s.session.map fun (q : Session) => q.settings.overriddenBy options with
    | some (.ok settings) => (s.modifySession fun q => { q with settings }).done t
    | some (.error issues) => s.finish t (.error (.invalid issues))
    | none => s.done t
  | .command text =>
    match s.session.bind (·.compiler) with
    | some i => s.beginSend t i text .direct
    | none => s.finish t (.error (.noCompiler "send"))
  | .startAgain =>
    match s.session.bind (·.compiler) with
    | some i => s.beginLaunch t i .direct
    | none => s.finish t (.error (.noCompiler "start"))
  | .supervisorStart i => s.beginLaunch t i .direct
  | .supervisorStop i => s.beginStop t i .direct
  | .supervisorKill i => (s.killSupervised i).done t
  | .supervisorCommand i text => s.beginSend t i text .direct
  | .runFolder i folder => s.runFolders t i .single false [folder]
  | .runAll i folders =>
    let s := s.modifyRunner i fun r => { r with lock := r.lock.acquire t }
    if (s.runners[i]?.bind (·.lock.owner)) = some t then s.runFolders t i (.all []) true folders
    else
      match folders with
      | [] => s.setTask t (.emptyTurn i)
      | folder :: rest => s.setTask t (.runnerTurn ⟨i, folder, rest, .all []⟩)

/-- A task that has got its turn goes on. -/
def proceed (s : State) (t : TaskId) : State :=
  match s.tasks[t]? with
  | some (.compileTurn job) =>
    if (s.session.bind (·.lock.owner)) = some t then s.runJob t job else s
  | some (.writeTurn i command stage) =>
    if (s.supervisors[i]?.bind (·.writeLock.owner)) = some t then s.writeCommand t i command stage
    else s
  | some (.runnerTurn w) =>
    if (s.runners[w.runner]?.bind (·.lock.owner)) = some t then
      s.runFolders t w.runner w.stage true (w.folder :: w.rest)
    else s
  | some (.emptyTurn i) =>
    if (s.runners[i]?.bind (·.lock.owner)) = some t then s.runFolders t i (.all []) true [] else s
  | some (.reaping i p stage) => s.endReap t i p stage
  | _ => s

/-- A task notices the exit it waits for. -/
def exitSeen (s : State) (t : TaskId) : State :=
  match s.tasks[t]? with
  | some (.exiting i p _ stage) => if s.isAlive p then s else s.beginReap t i stage
  | some (.running p w) => if s.isAlive p then s else s.oneShotExited t p w
  | some (.runnerReaping p w) => if s.isAlive p then s else s.compileFailed t w .compileTimeout
  | _ => s

/-- The time a task gives a process is over. -/
def timeout (s : State) (t : TaskId) : State :=
  match s.tasks[t]? with
  | some (.exiting i p false stage) => s.killStubborn t i p stage
  | some (.running p w) => s.oneShotTimeout t p w
  | _ => s

/-- The one transition function. -/
def step (s : State) : Event → State
  | .call request => s.call request
  | .proceed t => s.proceed t
  | .launched t result =>
    match s.tasks[t]? with
    | some (.launching i stage) => s.launched t i stage result
    | some (.runnerLaunching w) => s.oneShotLaunched t w result
    | _ => s
  | .flushed t flush =>
    match s.tasks[t]? with
    | some (.flushing i p command stage) => s.flushed t i p command stage flush
    | _ => s
  | .exitSeen t => s.exitSeen t
  | .timeout t => s.timeout t
  | .waitFailed t error =>
    match s.tasks[t]? with
    | some (.running _ w) => s.compileFailed t w (.os error)
    | _ => s
  | .read p name => s.read p name
  | .notice p => s.noticeExit p
  | .output p name bytes =>
    if s.isAlive p then
      s.modifyProcess p fun q =>
        q.setOutput name { q.output name with pipe := (q.output name).pipe.feed bytes }
    else s
  | .exit p code =>
    if s.isAlive p then
      s.modifyProcess p fun q =>
        { q with
          code := some code
          stdout := { q.stdout with pipe := { q.stdout.pipe with ended := true } }
          stderr := { q.stderr with pipe := { q.stderr.pipe with ended := true } } }
    else s
  | .breakOutput p name =>
    s.modifyProcess p fun q =>
      q.setOutput name { q.output name with pipe := { (q.output name).pipe with broken := true } }
  | .writeFile path bytes =>
    match s.files.write path bytes with
    | .ok files => { s with files }
    | .error _ => s

/-- A run of events. -/
def run (s : State) (events : List Event) : State := events.foldl step s

end State

end Datapack.Machine
