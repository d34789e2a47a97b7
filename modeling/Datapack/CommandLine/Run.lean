import Datapack.CommandLine.Arguments
import Datapack.CommandLine.Compile
import Datapack.Selector.Completion
import Datapack.Selector.Signature
import Datapack.Watch

/-! What each command does. -/

namespace Datapack.CommandLine

open Diagnostic Machine Selector Simulation

/-- What a command starts and leaves to others. -/
inductive Call where
  /-- A language server on the standard streams. -/
  | serveStreams (settings : Settings)
  /-- A language server on a socket. -/
  | serveSocket (host : String) (port : Int)
  /-- A source of file changes. -/
  | watch (directory : Path)

/-- A run of a command so far. -/
structure Console where
  world : World
  ledger : Ledger := {}
  printed : List Printed := []
  calls : List Call := []
  /-- The threshold of the log. -/
  threshold : Nat := LogLevel.startThreshold

/-- How a run ends. -/
inductive Ending where
  | exit (code : Nat)
  | failure (fault : Fault)
deriving DecidableEq, Repr

def Ending.code : Ending → Nat
  | exit code => code
  | failure _ => 1

namespace Console

def print (c : Console) (lines : List Printed) : Console := { c with printed := c.printed ++ lines }

def printLine (c : Console) (text : String) : Console := c.print [.line text]

def start (c : Console) (call : Call) : Console := { c with calls := c.calls ++ [call] }

def emit (e : Effect) (c : Console) : Console :=
  { c with world := { c.world with machine := c.world.machine.emit e } }

/-- Compiles folders and prints the diagnostics that stand: their number. -/
def compile (settings : Settings) (folders : List Path) (c : Console) :
    Console × Except Fault Nat :=
  let (world, ledger, result) :=
    compileAll settings (.disk folders) folders c.world c.ledger
  let c := { c with world, ledger }
  match result with
  | .error e => (c, .error e)
  | .ok () =>
    let records := allRecords ledger.store
    match reportLines records with
    | .error e => (c, .error e)
    | .ok lines => (c.print lines, .ok records.length)

/-- The completion context and items at a cursor, and the call around it. -/
def classify (c : Console) (line : String) (cursor : Option Int) (trigger : Option String) :
    Console :=
  let cs := line.toList
  let offset := cursor.getD cs.length
  let context := Selector.contextAt cs offset trigger
  let (kind, anchor) : String × String :=
    match context with
    | none => ("none", "-")
    | some (.target a) => ("selector_target", toString a)
    | some (.param a) => ("selector_param", toString a)
    | some (.member a) => ("selector_member", toString a)
  let c := c.printLine ("context: [bold]" ++ kind ++ "[/bold] (anchor " ++ anchor ++ ")")
  let entries := entriesOf context
  let rows := entries.map fun e => [e.label, e.insertText.getD "", e.detail.getD ""]
  let c := if entries.isEmpty then c else c.print [.table ["label", "insert", "detail"] rows]
  let c := c.printLine ("(" ++ toString entries.length ++ " items)")
  match signaturesAt cs offset with
  | some (s :: _) =>
    c.printLine ("signature: " ++ s.label ++ " (parameter " ++ toString s.active ++ ")")
  | _ => c

/-- Compiles a folder, and again whenever one of its sources changes. -/
def watch (settings : Settings) (folder : Path) (items : List WatchItem) (c : Console) :
    Console × Ending :=
  match c.compile settings [folder] with
  | (c, .error e) => (c, .failure e)
  | (c, .ok _) =>
    let (watcher, effects) := Watcher.start { directory := folder }
    let c := (effects.foldl (fun c e => c.emit e) c).start (.watch folder)
    let recompile (_ : List Path) (c : Console) : Console × Except Fault Unit :=
      let (c, result) := c.compile settings [folder]
      (c, result.map fun _ => ())
    let (watcher, _, c) := watcher.pump recompile Console.emit c (items ++ [.ended])
    match watcher.task with
    | some .interrupted => (c.printLine "Stopped.", .exit 0)
    | _ =>
      match watcher.stop with
      | (_, effects, .ok ()) => (effects.foldl (fun c e => c.emit e) c, .exit 0)
      | (_, _, .error e) => (c, .failure e)

/-- The settings of the environment, and the threshold of the log they or an option ask for. An
empty option counts as none. -/
def configured (c : Console) (env : List (String × String)) (logLevel : Option String) :
    Except Fault (Settings × Console) := do
  let settings ← (Settings.ofEnvironment env).mapError Fault.invalid
  let level := (logLevel.filter (!·.isEmpty)).getD settings.logLevel
  return (settings, { c with threshold := ← LogLevel.initial level })

def checkFolders (folders : List String) : Except Fault (List Path) :=
  folders.mapM fun f =>
    if f.toList.contains (Char.ofNat 0) then .error .nullInPath else .ok (Path.ofString f).resolve

/-- Runs a command. -/
def run (c : Console) (env : List (String × String)) (items : List WatchItem) :
    Command → Console × Ending
  | .classify line cursor trigger => (c.classify line cursor trigger, .exit 0)
  | .serve tcp host port logLevel =>
    match c.configured env logLevel with
    | .error e => (c, .failure e)
    | .ok (settings, c) =>
      if tcp then
        ((c.printLine ("[green]Starting language server on " ++ host ++ ":" ++ toString port ++
          "[/green]")).start (.serveSocket host port), .exit 0)
      else (c.start (.serveStreams settings), .exit 0)
  | .compile folders logLevel =>
    match checkFolders folders with
    | .error e => (c, .failure e)
    | .ok folders =>
      match c.configured env logLevel with
      | .error e => (c, .failure e)
      | .ok (settings, c) =>
        match c.compile settings folders with
        | (c, .error e) => (c, .failure e)
        | (c, .ok errors) => (c, .exit (if errors = 0 then 0 else 1))
  | .watch folder logLevel =>
    match checkFolders [folder] with
    | .ok [folder] =>
      match c.configured env logLevel with
      | .error e => (c, .failure e)
      | .ok (settings, c) => c.watch settings folder items
    | .ok _ => (c, .exit 0)
    | .error e => (c, .failure e)

/-- Runs a command line. -/
def runArguments (c : Console) (env : List (String × String)) (items : List WatchItem)
    (args : List String) : Console × Ending :=
  match Command.ofArguments args with
  | .help | .completion => (c, .exit 0)
  | .misuse => (c, .exit 2)
  | .run command => c.run env items command

end Console

end Datapack.CommandLine
