import Datapack.Simulation.Schedule
import Datapack.Simulation.Script

/-! A machine together with scripted processes. Processes react at once to what is done to them; what
follows from that for readers, exit watches and tasks goes through the schedule, which does one
thing after the other in the order in which it became possible. -/

namespace Datapack.Simulation

open Machine

/-- Something done from outside. -/
inductive Move where
  | ask (request : Request)
  /-- The process that was created last writes to an output. -/
  | output (name : OutputName) (bytes : Text.Bytes)
  /-- The process that was created last exits. -/
  | exit (code : Int)
  /-- Reading an output of the process that was created last fails from now on. -/
  | breakOutput (name : OutputName)
  /-- The script of the process that was created last changes. -/
  | rescript (change : Script → Script)
  /-- The documents change. -/
  | edit (change : Documents → Documents)

/-- Moves made one after the other, as a part of what is asked for together. -/
structure Part where
  moves : List Move
  /-- How deep it is nested in what is asked for together. -/
  depth : Nat := 0

structure World where
  machine : State
  /-- The scripts of the processes to come. -/
  upcoming : List Script := []
  /-- The script of all processes after those. -/
  otherwise : Script := {}
  /-- The scripts of the processes there are. -/
  scripts : List Script := []
  /-- How much of the trace the processes have reacted to. -/
  heard : Nat := 0
  schedule : Schedule := {}
  /-- Processes that exited because of a command that they have not taken yet. -/
  held : List ProcessId := []
  /-- Processes whose exit watch waits for the readers. -/
  gathered : List ProcessId := []
  /-- Tasks whose process has begun to take its input or to do its work. -/
  begun : List TaskId := []
  /-- What was asked for since the last mark. -/
  parts : List Part := []
  /-- The tasks that it led to: the number of the part, and the task. -/
  asked : List (Nat × TaskId) := []
  /-- The first failure among those tasks. -/
  failure : Option Fault := none

namespace World

def scriptOf (w : World) (p : ProcessId) : Script := w.scripts[p]?.getD w.otherwise

/-- The process that was created last. -/
def lastProcess? (w : World) : Option ProcessId :=
  if w.machine.processes.isEmpty then none else some (w.machine.processes.length - 1)

/-- What processes do about an effect. -/
def reaction (w : World) : Effect → List Event
  | .write p command => (w.scriptOf p).onCommand p command
  | .signal p signal => (w.scriptOf p).onSignal p signal
  | _ => []

/-- Processes react to an effect. One that exits because of a command is known to have exited only
when it takes its input. -/
def react (w : World) (e : Effect) : World :=
  let machine := w.machine.run (w.reaction e)
  match e with
  | .write p _ =>
    if w.machine.isAlive p && !machine.isAlive p then { w with machine, held := p :: w.held }
    else { w with machine }
  | _ => { w with machine }

/-- Lets an event happen, and processes react to its effects. -/
def step (w : World) (e : Event) : World :=
  let machine := w.machine.step e
  let fresh := (machine.trace.extract w.heard machine.trace.size).toList
  fresh.foldl react { w with machine, heard := machine.trace.size }

/-- The process whose exit a task waits for after killing it. -/
def killed? : Machine.Task → Option ProcessId
  | .exiting _ p true _ => some p
  | .runnerReaping p _ => some p
  | _ => none

/-- The exit of a process that was killed is seen at once. -/
def seeKilled (w : World) : World :=
  w.machine.tasks.zipIdx.foldl (fun w (task, t) =>
    match killed? task with
    | some p => if w.machine.isAlive p then w else w.step (.exitSeen t)
    | none => w) w

/-- Lets an event happen with all that follows at once. -/
def happen (w : World) (e : Event) : World := (w.step e).seeKilled

def happenAll (w : World) (es : List Event) : World := es.foldl happen w

/-- Lets an event happen by which a task goes on; nothing else is expected of what it waited for. -/
def resume (w : World) (t : TaskId) (e : Event) : World :=
  { w with schedule := w.schedule.forget t, begun := w.begun.filter (· != t) }.happen e

/-- Takes the script of the next process. -/
def takeScript (w : World) : Script × World :=
  match w.upcoming with
  | script :: rest => (script, { w with upcoming := rest })
  | [] => (w.otherwise, w)

/-- Creates the process a task waits for, or refuses to. -/
def create (w : World) (t : TaskId) : World :=
  let (script, w) := w.takeScript
  match script.refusal with
  | some e => w.resume t (.launched t (.error e))
  | none =>
    let p := w.machine.processes.length
    let w := { w with scripts := w.scripts ++ [script] }.resume t (.launched t (.ok ()))
    match w.machine.processes[p]?.bind (·.owner) with
    | some _ => w.happenAll (Script.outputs p script.onStart)
    | none => w

/-- A reader reads up to a number of items. -/
def readItems (p : ProcessId) (name : OutputName) : Nat → World → World
  | 0, w => w
  | most + 1, w =>
    let reads := (w.machine.processes[p]?.map fun q =>
      (q.output name).reader == .reading &&
        ((q.output name).pipe.next? ((q.owner.bind (w.machine.supervisors[·]?)).elim 0
          (·.limit))).isSome).getD false
    if reads then readItems p name most (w.happen (.read p name)) else w

/-- A reader reads all there is: no more items than bytes, and the end. -/
def readAll (w : World) (p : ProcessId) (name : OutputName) : World :=
  let bytes := (w.machine.processes[p]?.map fun q => (q.output name).pipe.buffer.length).getD 0
  readItems p name (bytes + 1) w

/-- Whether a process is known to have exited. -/
def hasExited (w : World) (p : ProcessId) : Bool :=
  (w.machine.processes[p]?.map fun q => !q.isAlive).getD false && !w.held.contains p

/-- How many rounds lie between the end of what a task waits for with patience and its next step. -/
def patientRounds : Nat := 2

/-- What the readers and the exit watch of a process will do. -/
def planProcess (w : World) (s : Schedule) (process : Process) (p : ProcessId) : Schedule :=
  match process.owner.bind (w.machine.supervisors[·]?) with
  | none => s
  | some sup =>
    let reads (name : OutputName) : Bool :=
      (process.output name).reader = .reading && ((process.output name).pipe.next? sup.limit).isSome
    let s := if reads .stdout then s.plan 1 (.wake p .stdout) else s
    let s := if reads .stderr then s.plan 1 (.wake p .stderr) else s
    if !process.watched then s
    else if w.gathered.contains p then
      if State.readersEnded process then s.plan 2 (.notice p) else s
    else if w.hasExited p then s.plan 1 (.gather p)
    else s

/-- The locks that tasks wait for, in the order in which they are given back. -/
inductive LockKind where
  | write
  | runner
  | compile
deriving DecidableEq, Repr

/-- The lock that a task waits for, and its owner. -/
def lockOwner? (w : World) : Machine.Task → Option (LockKind × Option TaskId)
  | .writeTurn i _ _ => some (.write, w.machine.supervisors[i]?.bind (·.writeLock.owner))
  | .runnerTurn work => some (.runner, w.machine.runners[work.runner]?.bind (·.lock.owner))
  | .emptyTurn i => some (.runner, w.machine.runners[i]?.bind (·.lock.owner))
  | .compileTurn _ => some (.compile, w.machine.session.bind (·.lock.owner))
  | _ => none

/-- A task that has become the owner of the lock it waits for will have its turn. -/
def planTurn (w : World) (kind : LockKind) (s : Schedule) (task : Machine.Task) (t : TaskId) :
    Schedule :=
  if w.lockOwner? task = some (kind, some t) then s.plan 1 (.proceed t) else s

/-- What will happen to a task because of what it waits for. -/
def planTask (w : World) (s : Schedule) (task : Machine.Task) (t : TaskId) : Schedule :=
  let unlessLate (rounds : Nat) (d : Deed) : Schedule :=
    if s.expects (.timeout t) then s else s.plan rounds d
  match task with
  | .launching _ _ => s.plan 1 (.create t)
  | .runnerLaunching _ => s.plan 1 (.create t)
  | .flushing i _ _ _ =>
    let s := if w.begun.contains t then s else s.plan 1 (.drain t)
    match w.machine.supervisors[i]? with
    | some sup => if s.expects (.timeout t) then s else s.await t sup.settings.commandTimeout
    | none => s
  | .running p work =>
    let s :=
      if !w.begun.contains t then s.plan 1 (.work t)
      else if w.hasExited p then unlessLate patientRounds (.exitSeen t)
      else s
    match w.machine.runners[work.runner]? with
    | some r => if s.expects (.timeout t) then s else s.await t r.settings.compileTimeout
    | none => s
  | .exiting i p false _ =>
    let s := if w.hasExited p then unlessLate (1 + patientRounds) (.exitSeen t) else s
    match w.machine.supervisors[i]? with
    | some sup => if s.expects (.timeout t) then s else s.await t sup.settings.commandTimeout
    | none => s
  | .reaping _ p _ =>
    if s.expects (.proceed t) then s else s.plan (1 + max 1 (s.roundsLeft p)) (.proceed t)
  | _ => s

/-- The failure of a task becomes known through all it is nested in. -/
def planFailure (w : World) (s : Schedule) (part : Nat) (t : TaskId) : Schedule :=
  match w.machine.tasks[t]? with
  | some (.finished (.error _)) =>
    s.plan (1 + 2 * ((w.parts[part]?.map (·.depth)).getD 0)) (.fail t)
  | _ => s

/-- Plans all that has become possible. -/
def plan (w : World) : World :=
  let tasks := w.machine.tasks.zipIdx
  let s := w.machine.processes.zipIdx.foldl (fun s (q, p) => w.planProcess s q p) w.schedule
  let s := [LockKind.write, .runner, .compile].foldl (fun s kind =>
    tasks.foldl (fun s (task, t) => w.planTurn kind s task t) s) s
  let s := tasks.foldl (fun s (task, t) => w.planTask s task t) s
  let s :=
    if w.failure.isSome then s else w.asked.foldl (fun s (part, t) => w.planFailure s part t) s
  { w with schedule := s }

/-- A process takes the input that a task has written, unless it never does. If it exited because of
that input, this is known first. -/
def drain (w : World) (t : TaskId) : World :=
  match w.machine.tasks[t]? with
  | some (.flushing _ p _ _) =>
    let w := { w with held := w.held.filter (· != p), begun := t :: w.begun }.plan
    match (w.scriptOf p).intake with
    | .ready => { w with schedule := w.schedule.plan patientRounds (.flushed t .done) }
    | .closed => { w with schedule := w.schedule.plan patientRounds (.flushed t .closed) }
    | .stalled => w
  | _ => w

/-- A one-shot process writes its report, does its work and exits, unless it hangs. A report that
cannot be written breaks the wait for it. -/
def work (w : World) (t : TaskId) : World :=
  match w.machine.tasks[t]? with
  | some (.running p _) =>
    let w := { w with begun := t :: w.begun }
    let script := w.scriptOf p
    let directory := ((w.machine.processes[p]?).bind (·.launch.directory)).getD Path.rootDirectory
    let path := directory.child script.reportName
    if script.hangs then w
    else
      match script.report with
      | none => w.happenAll (script.oneShot p)
      | some bytes =>
        match w.machine.files.write path bytes with
        | .ok _ => w.happenAll (.writeFile path bytes :: script.oneShot p)
        | .error e =>
          let cause : OsError :=
            match e with
            | .os cause => cause
            | _ => .other
          { w with schedule := w.schedule.plan patientRounds (.waitFailed t cause) }
  | _ => w

/-- Makes a move. -/
def make (part : Nat) (w : World) : Move → World
  | .ask request =>
    let t := w.machine.tasks.length
    { w with asked := w.asked ++ [(part, t)] }.happen (.call request)
  | .output name bytes =>
    match w.lastProcess? with
    | some p => w.happen (.output p name bytes)
    | none => w
  | .exit code =>
    match w.lastProcess? with
    | some p => w.happen (.exit p code)
    | none => w
  | .breakOutput name =>
    match w.lastProcess? with
    | some p => w.happen (.breakOutput p name)
    | none => w
  | .rescript change => { w with scripts := w.scripts.modify (w.scripts.length - 1) change }
  | .edit change =>
    { w with machine := w.machine.modifySession fun q => { q with documents := change q.documents } }

/-- Makes the moves of a part. -/
def begin (w : World) (part : Nat) : World :=
  match w.parts[part]? with
  | some p => p.moves.foldl (make part) w
  | none => w

/-- Takes note of a failure, if it is the first. -/
def fail (w : World) (t : TaskId) : World :=
  match w.failure, w.machine.tasks[t]? with
  | none, some (.finished (.error e)) => { w with failure := some e }
  | _, _ => w

/-- Does a deed. -/
def act (w : World) : Deed → World
  | .part i => w.begin i
  | .create t => w.create t
  | .wake p name => w.readAll p name
  | .gather p => { w with gathered := p :: w.gathered }
  | .notice p => w.happen (.notice p)
  | .proceed t => w.resume t (.proceed t)
  | .drain t => w.drain t
  | .work t => w.work t
  | .flushed t flush => w.resume t (.flushed t flush)
  | .exitSeen t => w.resume t (.exitSeen t)
  | .timeout t =>
    match w.machine.tasks[t]? with
    | some (.flushing _ _ _ _) => w.resume t (.flushed t .timeout)
    | _ => w.resume t (.timeout t)
  | .waitFailed t error => w.resume t (.waitFailed t error)
  | .fail t => w.fail t

/-- The next thing that happens, if there is one. -/
def advance? (w : World) : Option World :=
  w.schedule.next?.map fun
    | (none, schedule) => { w with schedule }
    | (some d, schedule) => ({ w with schedule }.act d).plan

/-- Lets at most `fuel` things happen. -/
def settleWithin : Nat → World → World
  | 0, w => w
  | fuel + 1, w =>
    match w.advance? with
    | none => w
    | some next => settleWithin fuel next

/-- More than any run of the scripts that are written needs. -/
def patience : Nat := 1000000

/-- Lets everything happen that can. -/
def settle (w : World) : World := settleWithin patience w.plan

/-- Forgets what was asked for. -/
def mark (w : World) : World := { w with parts := [], asked := [], failure := none }

/-- The answer of a part; one that asked nothing has none. -/
def answerOf (w : World) (part : Nat) : Answer :=
  match (w.asked.lookup part).bind (w.machine.tasks[·]?) with
  | some (.finished (.ok answer)) => answer
  | _ => .nothing

/-- The answers of all parts, or the first failure. -/
def answers (w : World) : Except Fault (List Answer) :=
  match w.failure with
  | some e => .error e
  | none => .ok ((List.range w.parts.length).map w.answerOf)

/-- Makes moves one after the other and lets everything happen: the answer to what they ask. -/
def perform (w : World) (moves : List Move) : World × Except Fault Answer :=
  let w := ({ w.mark with parts := [⟨moves, 0⟩] }.begin 0).settle
  (w, w.answers.map fun _ => w.answerOf 0)

/-- Makes a request. -/
def request (w : World) (request : Request) : World × Except Fault Answer := w.perform [.ask request]

/-- Lets parts begin in order, the nested ones later, and then everything happen: the answers, or
the first failure. -/
def together (w : World) (parts : List Part) : World × Except Fault (List Answer) :=
  let w := { w.mark with parts }
  let schedule := parts.zipIdx.foldl (fun s (part, i) => s.plan (1 + part.depth) (.part i)) w.schedule
  let w := { w with schedule }.settle
  (w, w.answers)

end World

end Datapack.Simulation
