import Datapack.Machine.OneShot

/-! What a session does: its life, the notifications of a live game server, and compile passes. -/

namespace Datapack.Machine

open Diagnostic

/-- The folders of a pass of one-shot compiles: the workspace's, or else the root. -/
def Session.compiledFolders (q : Session) : Except Fault (List Path) :=
  q.documents.folders.map fun folders => if folders.isEmpty then q.root.toList else folders

namespace State

/-- A pass of one-shot compiles. -/
def oneShotPass (s : State) (t : TaskId) (session : Session) : State :=
  match session.runner with
  | none => s.endPass t (.ok .nothing)
  | some runner =>
    match session.compiledFolders with
    | .error e => s.endPass t (.error e)
    | .ok folders => s.runFolders t runner .pass false folders

/-- Starts a pass that commands the running compiler. -/
def commandPass (s : State) (t : TaskId) (i : SupervisorId) (extra : List String)
    (stage : SendStage) : State :=
  match s.openPass extra with
  | (s, .ok ()) => s.beginSend t i errorsCommand stage
  | (s, .error e) => s.endPass t (.error e)

/-- The pass after a save. -/
def savePass (s : State) (t : TaskId) (session : Session) (uri : String) : State :=
  match session.settings.mode with
  | .batch => s.oneShotPass t session
  | .persistent =>
    match s.runningCompiler? with
    | none =>
      (s.emit (.debug ("Save of " ++ uri ++ " ignored, no compiler running"))).endPass t (.ok .nothing)
    | some i =>
      (s.emit (.info ("Recompiling after save of " ++ uri))).commandPass t i [uri] .saveErrors

/-- The pass that was asked for. -/
def compilePass (s : State) (t : TaskId) (session : Session) : State :=
  match session.settings.mode with
  | .batch => s.oneShotPass t session
  | .persistent =>
    match s.runningCompiler?, session.root with
    | some i, some root =>
      s.commandPass t i [] (.compileErrors (root.child session.settings.outputSubdir).toText)
    | _, _ =>
      (s.emit (.warning "Compile requested but no compiler is running")).endPass t (.ok .nothing)

/-- A restart, which holds the compile lock. -/
def restartPass (s : State) (t : TaskId) (session : Session) : State :=
  match session.compiler with
  | some i => s.beginStop t i .restart
  | none => s.clearStream.launchCompiler t .restart

/-- Runs a job whose turn it is. -/
def runJob (s : State) (t : TaskId) (job : Job) : State :=
  match s.session with
  | none => s.finish t (.ok .nothing)
  | some session =>
    match job with
    | .save uri => s.savePass t session uri
    | .compile => s.compilePass t session
    | .restart => s.restartPass t session

/-- Runs a job when it is its turn. -/
def beginJob (s : State) (t : TaskId) (job : Job) : State :=
  let s := s.modifySession fun q => { q with lock := q.lock.acquire t }
  if (s.session.bind (·.lock.owner)) = some t then s.runJob t job
  else s.setTask t (.compileTurn job)

/-- Starts the session at a root. -/
def startSession (s : State) (t : TaskId) (root : Option Path) : State :=
  match s.session with
  | none => s.finish t (.ok .nothing)
  | some session =>
    let s := s.modifySession fun q => { q with root }
    match session.settings.mode, root with
    | .batch, _ =>
      let i := s.runners.length
      let s := { s with runners := s.runners ++ [(⟨session.settings, {}⟩ : Runner)] }
      let s := s.modifySession fun q => { q with runner := some i }
      (s.emit (.info "Using one-shot compiler invocations")).finish t (.ok .nothing)
    | .persistent, none =>
      (s.emit (.warning "No workspace folder open; compiler not started")).finish t (.ok .nothing)
    | .persistent, some _ => s.launchCompiler t .start

/-- Restarts the compiler; one-shot compilers need none. -/
def beginRestart (s : State) (t : TaskId) : State :=
  match s.session with
  | none => s.finish t (.ok (.flag false))
  | some session =>
    match session.settings.mode with
    | .batch => s.finish t (.ok (.flag session.runner.isSome))
    | .persistent => s.beginJob t .restart

/-- Closes the session: stops its compiler. -/
def closeSession (s : State) (t : TaskId) : State :=
  match s.session.bind (·.compiler) with
  | some i => s.beginStop t i .close
  | none => s.clearStream.finish t (.ok .nothing)

/-- Ends the session without waiting. -/
def killSession (s : State) : State :=
  let s :=
    match s.session.bind (·.compiler) with
    | some i => (s.killSupervised i).modifySession fun q => { q with compiler := none }
    | none => s
  s.clearStream

def gameStarted (s : State) (path : String) : State :=
  (s.emit (.info ("Live server started; recompiling into " ++ path ++ " on save"))).modifySession
    fun q => { q with outputPath := some path }

def gameStopped (s : State) : State :=
  (s.emit (.info "Live server stopped")).modifySession fun q => { q with outputPath := none }

end State

end Datapack.Machine
