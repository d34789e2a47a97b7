import Datapack.Diagnostic.ReportFile
import Datapack.Diagnostic.Ledger
import Datapack.Machine.Lock
import Datapack.Machine.Pipe
import Datapack.Settings.Override

/-! The state of everything that runs: processes, supervisors, one-shot compilers, a session, and
tasks that stand at the points where they wait. -/

namespace Datapack.Machine

open Diagnostic

abbrev ProcessId := Nat

abbrev SupervisorId := Nat

abbrev RunnerId := Nat

/-- What became of the background reader of an output. -/
inductive Reader where
  | reading
  | finished
  | failed
  | cancelled
deriving DecidableEq, Repr

inductive OutputName where
  | stdout
  | stderr
deriving DecidableEq, Repr

def OutputName.text : OutputName → String
  | stdout => "stdout"
  | stderr => "stderr"

structure Output where
  pipe : Pipe := {}
  reader : Reader := .reading
deriving DecidableEq, Repr

structure Process where
  launch : Launch
  /-- The supervisor whose readers and exit watch look after it; one-shot processes have none. -/
  owner : Option SupervisorId := none
  /-- The exit code, once it has ended. -/
  code : Option Int := none
  stdout : Output := {}
  stderr : Output := {}
  /-- Whether its exit is still to be reported. -/
  watched : Bool := false
deriving DecidableEq, Repr

namespace Process

def isAlive (p : Process) : Bool := p.code.isNone

def output (p : Process) : OutputName → Output
  | .stdout => p.stdout
  | .stderr => p.stderr

def setOutput (p : Process) (name : OutputName) (o : Output) : Process :=
  match name with
  | .stdout => { p with stdout := o }
  | .stderr => { p with stderr := o }

end Process

/-- Decides whether a recorder of lines takes a line, after all that was seen before it. -/
abbrev Recorder := Array Effect → String → Except Fault Unit

/-- Where a supervisor hands lines and exits. -/
inductive Sink where
  /-- To the diagnostics of a session: the current one, or one that was replaced. -/
  | session (generation : Nat)
  /-- To a record of them. -/
  | recorder (takes : Recorder) (tellsExit : Bool)

/-- Keeps one compiler process running for a workspace root. -/
structure Supervisor where
  settings : Settings
  root : Path
  limit : Nat
  sink : Sink
  process : Option ProcessId := none
  /-- The process whose readers and exit watch a stop cancels: the one that was created last. -/
  tended : Option ProcessId := none
  stopping : Bool := false
  writeLock : Lock := {}

/-- Runs one-shot compiles, one at a time. -/
structure Runner where
  settings : Settings
  lock : Lock := {}

structure Session where
  settings : Settings
  documents : Documents
  publisher : Publisher
  ledger : Ledger := {}
  outputPath : Option String := none
  compiler : Option SupervisorId := none
  runner : Option RunnerId := none
  root : Option Path := none
  lock : Lock := {}

/-- What follows a launch. -/
inductive LaunchStage where
  | direct
  | start
  | spawn
  | restart
deriving DecidableEq, Repr

/-- What follows a stop. -/
inductive StopStage where
  | direct
  | close
  | restart
deriving DecidableEq, Repr

/-- What follows a command. -/
inductive SendStage where
  | direct
  | saveErrors
  | saveOutput
  | compileErrors (output : String)
  | compileOutput
deriving DecidableEq, Repr

/-- What follows a one-shot compile. -/
inductive BatchStage where
  /-- Nothing: one folder was asked for. -/
  | single
  /-- The next folder, while the lock is kept; the reports so far, the last one first. -/
  | all (done : List (Path × Option Report))
  /-- The report is applied, then the next folder. -/
  | pass

/-- A one-shot compile under way: its folder, and the folders after it. -/
structure Work where
  runner : RunnerId
  folder : Path
  rest : List Path
  stage : BatchStage

/-- What a pass that holds the compile lock does. -/
inductive Job where
  | save (uri : String)
  | compile
  | restart
deriving DecidableEq, Repr

/-- What a finished task answers. -/
inductive Answer where
  | nothing
  | flag (b : Bool)
  | report (r : Option Report)
  | reports (rs : List (Path × Option Report))

/-- Where a task stands. -/
inductive Task where
  /-- Waits for the compile lock. -/
  | compileTurn (job : Job)
  /-- Waits for the operating system to create a process. -/
  | launching (sup : SupervisorId) (stage : LaunchStage)
  /-- Waits for a process to exit; `killed` says that it was not just asked to. -/
  | exiting (sup : SupervisorId) (process : ProcessId) (killed : Bool) (stage : StopStage)
  /-- Waits for cancelled readers. -/
  | reaping (sup : SupervisorId) (process : ProcessId) (stage : StopStage)
  /-- Waits for the turn to write a command. -/
  | writeTurn (sup : SupervisorId) (command : String) (stage : SendStage)
  /-- Waits until a command is flushed. -/
  | flushing (sup : SupervisorId) (process : ProcessId) (command : String) (stage : SendStage)
  /-- Waits for the lock of a runner. -/
  | runnerTurn (work : Work)
  /-- Waits for the lock of a runner with nothing to compile. -/
  | emptyTurn (runner : RunnerId)
  /-- Waits for the creation of a one-shot process. -/
  | runnerLaunching (work : Work)
  /-- Waits for a one-shot process to finish. -/
  | running (process : ProcessId) (work : Work)
  /-- Waits for the exit of a one-shot process that took too long. -/
  | runnerReaping (process : ProcessId) (work : Work)
  | finished (result : Except Fault Answer)

structure State where
  processes : List Process := []
  supervisors : List Supervisor := []
  runners : List Runner := []
  tasks : List Task := []
  session : Option Session := none
  /-- The sessions that were replaced, in order; their compilers may still run. -/
  retired : List Session := []
  files : FileTree := {}
  /-- Everything seen from the outside so far. -/
  trace : Array Effect := #[]

namespace State

def emit (s : State) (e : Effect) : State := { s with trace := s.trace.push e }

def emitAll (s : State) (es : List Effect) : State := es.foldl emit s

def setTask (s : State) (t : TaskId) (task : Task) : State := { s with tasks := s.tasks.set t task }

def finish (s : State) (t : TaskId) (r : Except Fault Answer) : State := s.setTask t (.finished r)

def modifyProcess (s : State) (p : ProcessId) (f : Process → Process) : State :=
  { s with processes := s.processes.modify p f }

def modifySupervisor (s : State) (i : SupervisorId) (f : Supervisor → Supervisor) : State :=
  { s with supervisors := s.supervisors.modify i f }

def modifyRunner (s : State) (i : RunnerId) (f : Runner → Runner) : State :=
  { s with runners := s.runners.modify i f }

def modifySession (s : State) (f : Session → Session) : State :=
  { s with session := s.session.map f }

/-- How many sessions there were before the current one. -/
def generation (s : State) : Nat := s.retired.length

/-- A session by its generation. -/
def sessionOf? (s : State) (generation : Nat) : Option Session :=
  if generation = s.generation then s.session else s.retired[generation]?

def modifySessionOf (s : State) (generation : Nat) (f : Session → Session) : State :=
  if generation = s.generation then s.modifySession f
  else { s with retired := s.retired.modify generation f }

/-- Replaces the session; the one before it is kept for what still reports to it. -/
def openSession (s : State) (session : Session) : State :=
  { s with session := some session, retired := s.retired ++ s.session.toList }

/-- Gives all sessions the same documents. -/
def setDocuments (s : State) (documents : Documents) : State :=
  { s.modifySession (fun q => { q with documents }) with
    retired := s.retired.map fun q => { q with documents } }

def isAlive (s : State) (p : ProcessId) : Bool := (s.processes[p]?.map Process.isAlive).getD false

/-- The process of a supervisor, if it is alive. -/
def aliveProcess? (s : State) (i : SupervisorId) : Option ProcessId := do
  let sup ← s.supervisors[i]?
  let p ← sup.process
  if s.isAlive p then some p else none

/-- The session's compiler, if its process is alive. -/
def runningCompiler? (s : State) : Option SupervisorId := do
  let session ← s.session
  let sup ← session.compiler
  let _ ← s.aliveProcess? sup
  return sup

/-- Whether diagnostics can be expected: a compiler is ready. -/
def expectsDiagnostics (s : State) : Bool :=
  match s.session with
  | none => false
  | some session =>
    match session.settings.mode with
    | .batch => session.runner.isSome
    | .persistent => s.runningCompiler?.isSome

end State

end Datapack.Machine
