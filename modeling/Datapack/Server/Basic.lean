import Datapack.Server.Argument
import Datapack.Server.Method
import Datapack.Server.Outgoing
import Datapack.Simulation.World

/-! A language server: what it keeps, and what it does about documents and settings. -/

namespace Datapack.Server

open Diagnostic Machine Simulation Text

/-- A message from the client. -/
structure Incoming where
  method : String
  id : Option Json := none
  params : Option Json := none

/-- A server and the world it runs in. -/
structure Service where
  /-- The settings before any client asks for others. -/
  base : Settings
  world : World
  workspace : Option Workspace := none
  /-- Whether there is a session: from the first message of a client to its last. -/
  live : Bool := false
  /-- Whether the client has said goodbye. -/
  closed : Bool := false
  /-- The threshold of the log. -/
  threshold : Nat := LogLevel.startThreshold

/-- How a message is answered. -/
inductive Reply where
  | silent
  | result (value : Json)
  | failure (fault : Fault)
  | unknownMethod (name : String)
  | unknownCommand (name : String)

namespace Service

def emit (s : Service) (e : Effect) : Service :=
  { s with world := { s.world with machine := s.world.machine.emit e } }

/-- Replaces the workspace, also for all sessions. -/
def setWorkspace (s : Service) (w : Workspace) : Service :=
  { s with
    workspace := some w
    world := { s.world with machine := s.world.machine.setDocuments (.workspace w) } }

/-- Changes the workspace, if there is one. -/
def onWorkspace (s : Service) (f : Workspace → Except Fault Workspace) : Service × Reply :=
  match s.workspace with
  | none => (s, .failure .noWorkspace)
  | some w =>
    match f w with
    | .ok w => (s.setWorkspace w, .silent)
    | .error e => (s, .failure e)

/-- Applies a level of the log, and tells about an unknown one. -/
def applyLevel (s : Service) (name : String) : Service :=
  let (threshold, entries) := LogLevel.adjust (some name) s.threshold
  (entries.map Effect.log).foldl emit { s with threshold }

/-- The session, if there is one. -/
def session? (s : Service) : Option Session := if s.live then s.world.machine.session else none

/-- Makes a request of the session, if there is one. -/
def ask (s : Service) (request : Request) : Service × Except Fault (Option Answer) :=
  if s.live then
    let (world, result) := s.world.request request
    ({ s with world }, result.map some)
  else (s, .ok none)

/-- `ask` for a notification. -/
def tell (s : Service) (request : Request) : Service × Reply :=
  match s.ask request with
  | (s, .ok _) => (s, .silent)
  | (s, .error e) => (s, .failure e)

end Service

/-- The position encodings that are known. -/
def encodings : List String := ["utf-8", "utf-16", "utf-32"]

/-- The first encoding the client offers that is known. -/
def chosenEncoding (params : Json) : String :=
  let offered :=
    (((params.field? "capabilities").bind (·.field? "general")).bind
      (·.field? "positionEncodings"))
  match offered.bind itemsOf? with
  | some items => ((items.map Json.asText).find? encodings.contains).getD "utf-16"
  | none => "utf-16"

def serverName : String := "dpscript-lsp"

def serverVersion : String := "0.1.0"

/-- The commands clients can have executed. -/
def compileCommand : String := "dpscript.compile"

def restartCommand : String := "dpscript.restartCompiler"

def words (l : List String) : Json := .arr (l.map .str)

/-- What the server offers. -/
def welcome (params : Json) : Json :=
  .obj
    [("capabilities", .obj
      [("positionEncoding", .str (chosenEncoding params)),
       ("textDocumentSync",
         .obj [("openClose", .bool true), ("change", .int 1), ("save", .bool true)]),
       ("completionProvider", .obj [("triggerCharacters", words ["@", ",", "[", "."])]),
       ("signatureHelpProvider", .obj [("triggerCharacters", words ["(", ","])]),
       ("executeCommandProvider", .obj [("commands", words [compileCommand, restartCommand])]),
       ("workspace", .obj
         [("workspaceFolders",
             .obj [("supported", .bool true), ("changeNotifications", .bool true)]),
          ("fileOperations", .obj [])])]),
     ("serverInfo", .obj [("name", .str serverName), ("version", .str serverVersion)])]

/-- A field that is there and not null. -/
def given? (params : Json) (key : String) : Option Json :=
  match params.field? key with
  | some .null => none
  | j => j

/-- The uri of the document a message is about. -/
def documentUri (params : Json) : String :=
  (((params.field? "textDocument").bind (·.field? "uri")).map Json.asText).getD ""

def integerField (j : Json) (key : String) : Int := ((j.field? key).bind readInteger?).getD 0

/-- The items of a field. -/
def itemsField (j : Json) (key : String) : List Json := ((j.field? key).bind itemsOf?).getD []

/-- A field read as text. -/
def textField (j : Json) (key : String) : String := ((j.field? key).map Json.asText).getD ""

/-- Adds a folder of the workspace. -/
def addFolder (w : Workspace) (folder : Json) : Workspace :=
  let uri := textField folder "uri"
  { w with folders := Ordered.put (decodedUri uri) uri w.folders }

def removeFolder (w : Workspace) (folder : Json) : Workspace :=
  { w with folders := Ordered.remove (decodedUri (textField folder "uri")) w.folders }

/-- The workspace a client starts with. A root path counts if there is no root uri. -/
def firstWorkspace (params : Json) : Except Fault Workspace := do
  let rootUri ←
    match given? params "rootUri", given? params "rootPath" with
    | some uri, _ => .ok (Json.asText uri)
    | none, some path => Uri.ofPath (Json.asText path)
    | none, none => .ok ""
  let rootPath ← Uri.toPath rootUri
  return (itemsField params "workspaceFolders").foldl addFolder { rootPath }

/-- Keeps the text of a document that was opened, if its uri can be read. -/
def putDocument (w : Workspace) (document : Json) : Except Fault Workspace := do
  let uri := textField document "uri"
  let _ ← Uri.documentPath uri
  return { w with documents := Ordered.put (decodedUri uri) (textField document "text") w.documents }

/-- Forgets the text of a document. -/
def dropDocument (w : Workspace) (document : Json) : Workspace :=
  { w with documents := Ordered.remove (decodedUri (textField document "uri")) w.documents }

/-- Each change of an open document brings its whole text. -/
def updateDocument (document : Json) (w : Workspace) (change : Json) : Except Fault Workspace :=
  let key := decodedUri (textField document "uri")
  match w.documents.lookup key with
  | none => .error (.unknownDocument key)
  | some _ => .ok { w with documents := Ordered.put key (textField change "text") w.documents }

/-- Opens a document. -/
def openDocument (params : Json) (w : Workspace) : Except Fault Workspace :=
  putDocument w ((params.field? "textDocument").getD .null)

def changeDocument (params : Json) (w : Workspace) : Except Fault Workspace :=
  (itemsField params "contentChanges").foldlM
    (updateDocument ((params.field? "textDocument").getD .null)) w

def closeDocument (params : Json) (w : Workspace) : Except Fault Workspace :=
  .ok (dropDocument w ((params.field? "textDocument").getD .null))

/-- Folders are added and removed in pairs, as long as there are any. -/
def exchangeFolders (w : Workspace) : List Json → List Json → Workspace
  | new :: added, old :: removed => exchangeFolders (removeFolder (addFolder w new) old) added removed
  | added, [] => added.foldl addFolder w
  | [], removed => removed.foldl removeFolder w

def changeFolders (params : Json) (w : Workspace) : Except Fault Workspace :=
  let event := (params.field? "event").getD .null
  .ok (exchangeFolders w (itemsField event "added") (itemsField event "removed"))

/-- A line of a document without its line end; beyond the last line it is empty. There is none if
the document cannot be read. -/
def documentLine (s : Service) (params : Json) : Except Fault (Option (List Char)) :=
  match s.workspace with
  | none => .error .noWorkspace
  | some w => do
    let position := (params.field? "position").getD .null
    match ← (Documents.workspace w).text s.world.machine.files (documentUri params) with
    | none => return none
    | some text =>
      let lines := splitLines text.toList
      return some (dropLineEnd (lines[(integerField position "line").toNat]?.getD []))

def cursorOf (params : Json) : Int :=
  integerField ((params.field? "position").getD .null) "character"

/-- The character that was typed, if the request was triggered by one. -/
def triggerOf (params : Json) : Option String := do
  let context ← given? params "context"
  let kind ← (context.field? "triggerKind").bind equalNumber?
  if kind = 2 then (given? context "triggerCharacter").map Json.asText else none

end Datapack.Server
