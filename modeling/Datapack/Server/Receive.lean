import Datapack.Server.Notebook

/-! What the server does about each message. -/

namespace Datapack.Server

open Diagnostic Machine Selector Simulation

namespace Service

/-- Greets a client: a session with the settings it asks for, unless they are invalid. -/
def greet (s : Service) (params : Json) : Service × Reply :=
  match firstWorkspace params with
  | .error e => (s, .failure e)
  | .ok workspace =>
    let options : List (String × Json) :=
      match params.field? "initializationOptions" with
      | some (.obj options) => options
      | _ => []
    let (settings, s) :=
      match s.base.overriddenBy options with
      | .ok settings => (settings, s)
      | .error issues =>
        (s.base, s.emit (.failure "Ignoring invalid initializationOptions" (.invalid issues)))
    let s := s.applyLevel settings.logLevel
    let session : Session :=
      { settings, documents := .workspace workspace, publisher := Publisher.editor }
    let s := s.setWorkspace workspace
    let machine := s.world.machine.openSession session
    ({ s with live := true, world := { s.world with machine } }, .result (welcome params))

/-- The client is ready: the session starts at the first folder. -/
def begin (s : Service) : Service × Reply :=
  match s.session? with
  | none => (s, .silent)
  | some session =>
    match session.documents.folders with
    | .error e => (s, .failure e)
    | .ok folders => s.tell (.start folders.head?)

/-- The client says goodbye: the compiler is killed. -/
def part (s : Service) : Service × Reply :=
  let (s, _) := s.tell .kill
  ({ s with live := false, closed := true }, .result .null)

/-- New settings from the client's configuration. -/
def reconfigure (s : Service) (params : Json) : Service × Reply :=
  match s.session?, configurationSection ((params.field? "settings").getD .null) with
  | some session, some (option :: options) =>
    match session.settings.overriddenBy (option :: options) with
    | .error issues =>
      (s.emit (.failure "Ignoring invalid dpscript configuration" (.invalid issues)), .silent)
    | .ok settings =>
      let (s, reply) := s.tell (.configure settings)
      (s.applyLevel settings.logLevel, reply)
  | _, _ => (s, .silent)

/-- Completion items at a position. -/
def completion (s : Service) (params : Json) : Reply :=
  match documentLine s params with
  | .error e => .failure e
  | .ok none => .result .null
  | .ok (some line) =>
    .result (completionJson (contextAt line (cursorOf params) (triggerOf params)))

/-- Signatures at a position. -/
def signature (s : Service) (params : Json) : Reply :=
  match documentLine s params with
  | .error e => .failure e
  | .ok none => .result .null
  | .ok (some line) => .result (signaturesJson (signaturesAt line (cursorOf params)))

/-- Executes a command. -/
def execute (s : Service) (name : String) : Service × Reply :=
  if name = compileCommand then
    match s.ask .compile with
    | (s, .ok _) => (s, .result .null)
    | (s, .error e) => (s, .failure e)
  else if name = restartCommand then
    match s.ask .restart with
    | (s, .ok (some (.flag b))) => (s, .result (.bool b))
    | (s, .ok _) => (s, .result (.bool false))
    | (s, .error e) => (s, .failure e)
  else (s, .unknownCommand name)

/-- A live game server has started; the notification must name its folder. -/
def gameStarted (s : Service) (params : Parameters) : Service × Reply :=
  match params.argument with
  | none =>
    (s.emit (.warning ("server_start without a path: " ++ params.shown)), .silent)
  | some path => s.tell (.gameStarted path)

/-- Handles a message that is part of the protocol. -/
def handleKnown (s : Service) (method : String) (params : Json) : Service × Reply :=
  match method with
  | "initialize" => s.greet params
  | "initialized" => s.begin
  | "shutdown" => s.part
  | "textDocument/didOpen" => s.onWorkspace (openDocument params)
  | "textDocument/didChange" => s.onWorkspace (changeDocument params)
  | "textDocument/didClose" =>
    match s.onWorkspace (closeDocument params) with
    | (s, .silent) => s.tell (.closeDocument (documentUri params))
    | (s, reply) => (s, reply)
  | "textDocument/didSave" => s.tell (.save (documentUri params))
  | "textDocument/completion" => (s, s.completion params)
  | "textDocument/signatureHelp" => (s, s.signature params)
  | "notebookDocument/didOpen" => s.onWorkspace (openNotebook params)
  | "notebookDocument/didChange" => s.onWorkspace (changeNotebook params)
  | "notebookDocument/didClose" => s.onWorkspace (closeNotebook params)
  | "workspace/didChangeConfiguration" => s.reconfigure params
  | "workspace/didChangeWorkspaceFolders" => s.onWorkspace (changeFolders params)
  | "workspace/executeCommand" =>
    s.execute (textField params "command")
  | name => (s, .unknownMethod name)

/-- Handles a message of our own. -/
def handleOwn (s : Service) (method : String) (params : Parameters) : Service × Reply :=
  match method with
  | "server_start" => s.gameStarted params
  | "server_stop" => s.tell .gameStopped
  | "compile" => s.tell .compile
  | name => (s, .unknownMethod name)

/-- The messages that tell the client how its message was answered. Notifications are answered
only if they failed. -/
def answer (id : Option Json) (reply : Reply) : List Outgoing :=
  match id, reply with
  | some id, .silent => [.result id .null]
  | some id, .result value => [.result id value]
  | some id, .failure e => [.refusal id (-32603) e.shown]
  | some id, .unknownMethod name => [.refusal id (-32601) ("Method Not Found: " ++ name)]
  | some id, .unknownCommand name =>
    [.refusal id (-32602)
      ("Invalid Params: Command name " ++ Text.quoted name ++ " is not defined")]
  | none, .failure e => [.showError ("Error in server: " ++ e.shown)]
  | none, _ => []

/-- What the effects since the trace had a size tell the client. -/
def told (s : Service) (size : Nat) : List Outgoing :=
  let trace := s.world.machine.trace
  (trace.extract size trace.size).toList.filterMap Outgoing.ofEffect?

/-- Finishes a step: effects first, then the answer. -/
def conclude (size : Nat) (id : Option Json) : Service × Reply → Service × List Outgoing
  | (s, reply) => (s, s.told size ++ answer id reply)

/-- Why a message could not be taken at all. -/
inductive Unfit where
  /-- Its parameters do not have the shape that the protocol gives them. -/
  | shape
  /-- Its parameters cannot be read as a record. -/
  | record
deriving DecidableEq, Repr

/-- Whether the parameters of a message have a shape; only optional ones may be missing. -/
def fits (shape : Shape) : Option Json → Bool
  | some params => shape.accepts params
  | none => shape.isOptional

/-- Takes a message. -/
def receive (s : Service) (m : Incoming) : Except Unfit (Service × List Outgoing) :=
  let size := s.world.machine.trace.size
  match method? m.method with
  | some method =>
    if !fits method.params m.params || (method.kind = .request && m.id.isNone) then .error .shape
    else if s.closed then .ok (s, [])
    else
      let id := if method.kind = .request then m.id else none
      .ok (conclude size id (s.handleKnown m.method (m.params.getD .null)))
  | none =>
    match m.params.bind Parameters.read? with
    | none => .error .record
    | some params =>
      if s.closed then .ok (s, []) else .ok (conclude size m.id (s.handleOwn m.method params))

end Service

end Datapack.Server
