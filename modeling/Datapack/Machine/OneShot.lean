import Datapack.Machine.Supervision

/-! One-shot compiles. All of them leave their report in the same file, so a folder is compiled only
after the report of the folder before it was read. -/

namespace Datapack.Machine.State

open Diagnostic Text

def releaseRunner (s : State) (i : RunnerId) : State :=
  s.modifyRunner i fun r => { r with lock := r.lock.release }

/-- Ends a task of one-shot compiles; a pass also gives the compile lock back. -/
def closeWork (s : State) (t : TaskId) (stage : BatchStage) (r : Except Fault Answer) : State :=
  match stage with
  | .pass => s.endPass t r
  | _ => s.finish t r

/-- The longest line kept of the output of one-shot processes; it is read as a whole anyway. -/
def oneShotLimit : Nat := 65536

def oneShotLaunch (settings : Settings) (folder : Path) : Launch :=
  ⟨settings.oneShotCommand folder.toText, some settings.compilerDir, oneShotLimit⟩

/-- Starts the compile of a folder: removes an old report and asks for a process. -/
def beginCompile (s : State) (settings : Settings) (folder : Path) : State × Except Fault Unit :=
  let s := s.emit (.info ("Compiling datapack " ++ folder.toText))
  match s.files.remove settings.reportPath with
  | .error e => (s, .error e)
  | .ok files => ({ s with files }.emit (.launch (oneShotLaunch settings folder)), .ok ())

/-- A failure of the operating system or a timeout means that there is no report. -/
def invocationFailed (s : State) (folder : Path) (e : Fault) : State × Except Fault (Option Report) :=
  match e with
  | .os _ | .compileTimeout =>
    (s.emit (.failure ("Compiler invocation failed for " ++ folder.toText) e), .ok none)
  | e => (s, .error e)

/-- How a one-shot compile of a folder ended, and what follows: whether further folders wait, and
with which stage. -/
def settle (s : State) (w : Work) (report : Option Report) : State × Except Fault BatchStage :=
  match w.stage with
  | .single => (s.releaseRunner w.runner, .ok .single)
  | .all done => (s, .ok (.all ((w.folder, report) :: done)))
  | .pass =>
    let (s, result) := (s.releaseRunner w.runner).enterReport w.folder report
    (s, result.map fun () => .pass)

/-- The answer when no folder is left. -/
def closeFolders (s : State) (t : TaskId) (runner : RunnerId) : BatchStage → State
  | .all done => (s.releaseRunner runner).finish t (.ok (.reports done.reverse))
  | .single => s.finish t (.ok .nothing)
  | .pass => s.endPass t (.ok .nothing)

/-- A failure that ends the work gives the runner's lock back. -/
def failWork (s : State) (t : TaskId) (w : Work) (e : Fault) : State :=
  (s.releaseRunner w.runner).closeWork t w.stage (.error e)

/-- The runner of the next folder. A pass asks the session, whose runner may have been replaced. -/
def nextRunner (s : State) (runner : RunnerId) : BatchStage → RunnerId
  | .pass => (s.session.bind (·.runner)).getD runner
  | _ => runner

/-- Compiles folders from the first one on, up to the next point where the task waits. `owned` says
that the task has the runner's lock. -/
def runFolders (s : State) (t : TaskId) (runner : RunnerId) (stage : BatchStage) (owned : Bool) :
    List Path → State
  | [] => s.closeFolders t runner stage
  | folder :: rest =>
    let w : Work := ⟨runner, folder, rest, stage⟩
    let s := if owned then s else s.modifyRunner runner fun r => { r with lock := r.lock.acquire t }
    match s.runners[runner]? with
    | none => s
    | some r =>
      if r.lock.owner ≠ some t then s.setTask t (.runnerTurn w)
      else
        match s.beginCompile r.settings folder with
        | (s, .ok ()) => s.setTask t (.runnerLaunching w)
        | (s, .error e) =>
          match s.invocationFailed folder e with
          | (s, .error e) => s.failWork t w e
          | (s, .ok report) =>
            match stage, s.settle w report with
            | .single, (s, _) => s.finish t (.ok (.report report))
            | .all _, (s, .ok next) => runFolders s t runner next true rest
            | _, (s, .ok next) => runFolders s t (s.nextRunner runner next) next false rest
            | _, (s, .error e) => s.closeWork t stage (.error e)

/-- A folder's compile has ended with a report or without one: goes on with the next folder. -/
def compiled (s : State) (t : TaskId) (w : Work) (report : Option Report) : State :=
  match w.stage, s.settle w report with
  | .single, (s, _) => s.finish t (.ok (.report report))
  | .all _, (s, .ok next) => s.runFolders t w.runner next true w.rest
  | _, (s, .ok next) => s.runFolders t (s.nextRunner w.runner next) next false w.rest
  | _, (s, .error e) => s.closeWork t w.stage (.error e)

/-- A folder's compile has failed. -/
def compileFailed (s : State) (t : TaskId) (w : Work) (e : Fault) : State :=
  match s.invocationFailed w.folder e with
  | (s, .ok report) => s.compiled t w report
  | (s, .error e) => s.failWork t w e

/-- A one-shot process was created, or could not be. -/
def oneShotLaunched (s : State) (t : TaskId) (w : Work) (result : Except Fault Unit) : State :=
  match result, s.runners[w.runner]? with
  | .ok (), some r =>
    let p := s.processes.length
    let quiet : Output := { reader := .finished }
    let process : Process :=
      { launch := oneShotLaunch r.settings w.folder, stdout := quiet, stderr := quiet }
    { s with processes := s.processes ++ [process] }.setTask t (.running p w)
  | .error e, _ => s.compileFailed t w e
  | .ok (), none => s

/-- Loads a report: none if there is no file, a failure if it cannot be read or decoded. -/
def loadReport (files : FileTree) (path : Path) : Except Fault (Option Report) :=
  match files.read path with
  | .error (.os .notFound) => .ok none
  | .error e => .error e
  | .ok bytes =>
    match Report.decode bytes with
    | .ok report => .ok (some report)
    | .error issues => .error (.invalidReport issues)

/-- Reads the report of a folder after its process has ended. -/
def takeReport (s : State) (settings : Settings) (folder : Path) :
    State × Except Fault (Option Report) :=
  let path := settings.reportPath
  match loadReport s.files path with
  | .ok none => (s.emit (.info ("No compiler report at " ++ path.toText)), .ok none)
  | .ok (some report) =>
    (s.emit (.info ("Compiler reported " ++ toString report.errors.length ++ " error(s) for " ++
      folder.toText)), .ok (some report))
  | .error e =>
    match e with
    | .os _ | .invalidReport _ =>
      (s.emit (.failure ("Could not read compiler report " ++ path.toText) e), .ok none)
    | e => (s, .error e)

/-- The output of a one-shot process as log entries. -/
def outputEntries (q : Process) : List Effect :=
  let shown (o : Output) : List Effect :=
    let text := String.ofList (trim (decodeLossy o.pipe.buffer))
    if text.isEmpty then [] else [.info ("compiler: " ++ text)]
  let code : List Effect :=
    match q.code with
    | some code => if code = 0 then [] else [.warning ("Compiler exited with code " ++ toString code)]
    | none => []
  shown q.stdout ++ shown q.stderr ++ code

/-- A one-shot process has ended. -/
def oneShotExited (s : State) (t : TaskId) (p : ProcessId) (w : Work) : State :=
  match s.processes[p]?, s.runners[w.runner]? with
  | some q, some r =>
    match (s.emitAll (outputEntries q)).takeReport r.settings w.folder with
    | (s, .ok report) => s.compiled t w report
    | (s, .error e) => s.failWork t w e
  | _, _ => s

/-- A one-shot process takes too long: it is killed. -/
def oneShotTimeout (s : State) (t : TaskId) (p : ProcessId) (w : Work) : State :=
  (s.emit (.signal p .kill)).setTask t (.runnerReaping p w)

end Datapack.Machine.State
