import Datapack.CommandLine.Run
import Datapack.Server.Framing

/-! The program: reads its arguments and its environment, and serves an editor on the standard
streams. -/

namespace Datapack

open CommandLine Server Simulation

/-- Nothing can be launched from here. -/
def bareWorld : World := { machine := {}, otherwise := { refusal := some (.os .notFound) } }

/-- The variables of the environment that settings come from. -/
def readEnvironment : IO (List (String × String)) :=
  (SettingsField.all.filterMap Settings.environmentKey?).filterMapM fun name => do
    return (← IO.getEnv name).map fun value => (name, value)

/-- Reads headers up to the empty line; the length they announce. -/
partial def readHeaders (input : IO.FS.Stream) (length : Option Nat) : IO (Option Nat) := do
  let line ← input.getLine
  if line.isEmpty then return none
  else if (Text.trimText line).isEmpty then return length
  else readHeaders input (announcedLength? line <|> length)

/-- Reads a number of bytes, or fewer at the end of the stream. -/
partial def readBody (input : IO.FS.Stream) (count : Nat) (seen : ByteArray) : IO ByteArray := do
  if count ≤ seen.size then return seen
  else
    let more ← input.read (USize.ofNat (count - seen.size))
    if more.isEmpty then return seen else readBody input count (seen ++ more)

/-- Serves messages until the stream ends. -/
partial def serve (service : Service) (input output : IO.FS.Stream) : IO Unit := do
  match ← readHeaders input none with
  | none => return
  | some count =>
    let body ← readBody input count .empty
    match (Incoming.decode? body.toList).map service.receive with
    | some (.ok (service, sent)) =>
      for message in sent do output.putStr message.frame
      output.flush
      serve service input output
    | _ => serve service input output

end Datapack

open Datapack CommandLine in
def main (args : List String) : IO UInt32 := do
  let env ← readEnvironment
  let invocation := Command.ofArguments args
  if invocation = .help || invocation = .misuse then
    for line in Command.usage do IO.println line
  if invocation = .completion then
    for (name, _) in Command.table do IO.println name
  let (console, ending) := ({ world := bareWorld } : Console).runArguments env [] args
  for printed in console.printed do
    match printed.shown .plain with
    | .ok rows => for row in rows do IO.println (String.intercalate "\t" row)
    | .error fault => IO.eprintln fault.shown
  for call in console.calls do
    match call with
    | .serveStreams settings =>
      serve { base := settings, world := bareWorld } (← IO.getStdin) (← IO.getStdout)
    | _ => pure ()
  if let .failure fault := ending then IO.eprintln fault.shown
  return UInt32.ofNat ending.code
