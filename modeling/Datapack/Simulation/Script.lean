import Datapack.Machine.Step

/-! Scripts of processes: what a process does when it starts, is written to, or is signalled. -/

namespace Datapack.Simulation

open Machine

/-- Pieces of output, in order, for each of the two outputs. -/
structure Pieces where
  stdout : List Text.Bytes := []
  stderr : List Text.Bytes := []
deriving DecidableEq, Repr

/-- How a process takes what is written to it. -/
inductive Intake where
  /-- At once. -/
  | ready
  /-- Never, so that the writer waits. -/
  | stalled
  /-- Its input is closed. -/
  | closed
deriving DecidableEq, Repr

/-- The script of one process. -/
structure Script where
  /-- Why the process cannot be created. -/
  refusal : Option Fault := none
  onStart : Pieces := {}
  onErrors : Pieces := {}
  onCompile : Pieces := {}
  /-- The start of the commands after which it exits. -/
  exitOn : Option String := none
  /-- The code it exits with. -/
  code : Int := 0
  intake : Intake := .ready
  /-- Whether it ignores the request to end. -/
  stubborn : Bool := false
  /-- The output of a one-shot process. -/
  stdout : Text.Bytes := []
  stderr : Text.Bytes := []
  /-- The report a one-shot process leaves in its directory. -/
  report : Option Text.Bytes := none
  reportName : String := "compilerOutput.json"
  /-- Whether a one-shot process never ends. -/
  hangs : Bool := false
deriving DecidableEq, Repr

namespace Script

/-- The exit codes of processes that were signalled. -/
def terminatedCode : Int := -15

def killedCode : Int := -9

/-- Whether a text starts with another one. -/
def startsWith (start text : String) : Bool := start.toList.isPrefixOf text.toList

/-- The events by which a process writes its pieces. -/
def outputs (p : ProcessId) (pieces : Pieces) : List Event :=
  pieces.stdout.map (.output p .stdout) ++ pieces.stderr.map (.output p .stderr)

/-- What a process does after a command. -/
def onCommand (script : Script) (p : ProcessId) (command : String) : List Event :=
  let pieces :=
    if startsWith "/logerrors" command then script.onErrors
    else if startsWith "/compile" command then script.onCompile
    else {}
  let exits := script.exitOn.any fun (start : String) => startsWith start command
  outputs p pieces ++ (if exits then [.exit p script.code] else [])

/-- What a process does after a signal. -/
def onSignal (script : Script) (p : ProcessId) : Signal → List Event
  | .terminate => if script.stubborn then [] else [.exit p terminatedCode]
  | .kill => [.exit p killedCode]

/-- What a one-shot process that does not hang does, apart from its report. -/
def oneShot (script : Script) (p : ProcessId) : List Event :=
  [.output p .stdout script.stdout, .output p .stderr script.stderr, .exit p script.code]

end Script

end Datapack.Simulation
