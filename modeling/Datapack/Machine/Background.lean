import Datapack.Machine.Diagnostics

/-! What goes on beside the tasks: readers of output, and the watch for exits. -/

namespace Datapack.Machine.State

open Diagnostic Text

/-- Hands a line of error output over. A recipient that fails is logged, and reading goes on. -/
def handLine (s : State) (sink : Sink) (line : String) : State :=
  let (s, result) :=
    match sink with
    | .session generation => s.takeLine generation line
    | .recorder takes _ => (s.emit (.line line), takes s.trace line)
  match result with
  | .ok () => s
  | .error e => s.emit (.failure "Error handling compiler output line" e)

/-- Lines of plain output are logged, unless they are blank. -/
def logLine (s : State) (line : String) : State :=
  let shown := trimText line
  if shown.isEmpty then s else s.emit (.info ("compiler: " ++ shown))

def overlongWarning (name : OutputName) (limit : Nat) : Effect :=
  .warning ("Dropped compiler " ++ name.text ++ " output longer than " ++ toString limit ++ " bytes")

/-- One step of the reader of an output. -/
def read (s : State) (p : ProcessId) (name : OutputName) : State :=
  match s.processes[p]? with
  | none => s
  | some process =>
    match process.owner.bind (s.supervisors[·]?) with
    | none => s
    | some sup =>
      let output := process.output name
      if output.reader ≠ .reading then s
      else
        match output.pipe.next? sup.limit with
        | none => s
        | some (item, pipe) =>
          let keep (reader : Reader) : State :=
            s.modifyProcess p fun q => q.setOutput name ⟨pipe, reader⟩
          match item with
          | .finished => keep .finished
          | .failure => keep .failed
          | .dropped => (keep .reading).emit (overlongWarning name sup.limit)
          | .line bytes =>
            let line := String.ofList (decodeLossy bytes)
            match name with
            | .stdout => (keep .reading).logLine line
            | .stderr => (keep .reading).handLine sup.sink line

/-- Both readers have come to an end. -/
def readersEnded (p : Process) : Bool := p.stdout.reader ≠ .reading && p.stderr.reader ≠ .reading

/-- One entry for each reader that failed. -/
def readerFailures (p : Process) : List Effect :=
  ([p.stdout, p.stderr].filter (·.reader == .failed)).map fun _ =>
    .failure "Compiler output reader failed" (.os .other)

/-- Hands an exit over. -/
def handExit (s : State) (sink : Sink) (code : Int) : State :=
  match sink with
  | .session generation =>
    (s.modifySessionOf generation fun session => { session with compiler := none }).clearStreamOf
      generation
  | .recorder _ tellsExit => if tellsExit then s.emit (.exit code) else s

/-- Reports an exit, after all output was read. A supervisor that is stopping keeps it to itself. -/
def noticeExit (s : State) (p : ProcessId) : State :=
  match s.processes[p]? with
  | none => s
  | some process =>
    match process.code, process.owner with
    | some code, some i =>
      match s.supervisors[i]? with
      | none => s
      | some sup =>
        if !process.watched || !readersEnded process then s
        else
          let s := (s.modifyProcess p fun q => { q with watched := false }).emitAll
            (readerFailures process)
          if sup.stopping then s
          else
            let s := s.emit (.warning ("Compiler exited with code " ++ toString code ++
              "; diagnostics suspended until restart"))
            let s := s.modifySupervisor i fun q =>
              if q.process = some p then { q with process := none } else q
            s.handExit sup.sink code
    | _, _ => s

end Datapack.Machine.State
