import Datapack.Decimal.Shortest
import Datapack.Machine.Step

/-! What is going to happen: deeds in a queue, each of which comes to the front a number of times
before it is done, and timers that run out only when the queue is empty. -/

namespace Datapack.Simulation

open Machine

/-- What is done when it comes to the front of the queue. -/
inductive Deed where
  /-- A part of what was asked for together begins. -/
  | part (i : Nat)
  /-- The process that a task waits for is created. -/
  | create (t : TaskId)
  /-- The reader of an output reads all there is. -/
  | wake (p : ProcessId) (name : OutputName)
  /-- The exit watch of a process learns of the exit, and waits for the readers. -/
  | gather (p : ProcessId)
  /-- The exit watch of a process reports. -/
  | notice (p : ProcessId)
  /-- A task has its turn. -/
  | proceed (t : TaskId)
  /-- The process that a task writes to takes its input. -/
  | drain (t : TaskId)
  /-- The one-shot process of a task does its work. -/
  | work (t : TaskId)
  | flushed (t : TaskId) (flush : State.Flush)
  | exitSeen (t : TaskId)
  | timeout (t : TaskId)
  | waitFailed (t : TaskId) (error : OsError)
  /-- The failure of a task becomes known to the one who asked. -/
  | fail (t : TaskId)
deriving DecidableEq, Repr

namespace Deed

/-- The task that a deed concerns. -/
def task? : Deed → Option TaskId
  | create t | proceed t | drain t | work t | flushed t _ | exitSeen t | timeout t
  | waitFailed t _ => some t
  | part _ | wake _ _ | gather _ | notice _ | fail _ => none

/-- The process whose readers or exit watch a deed concerns. -/
def process? : Deed → Option ProcessId
  | wake p _ | gather p | notice p => some p
  | _ => none

end Deed

/-- A deed in the queue. -/
structure Pending where
  deed : Deed
  /-- How often it still comes to the front; it is done the last time. -/
  rounds : Nat
deriving DecidableEq, Repr

/-- The patience of a task with the process it waits for. -/
structure Timer where
  task : TaskId
  /-- When it runs out, in nanoseconds. -/
  deadline : Nat
deriving DecidableEq, Repr

structure Schedule where
  queue : List Pending := []
  timers : List Timer := []
  /-- The time, in nanoseconds. -/
  clock : Nat := 0
deriving DecidableEq, Repr

namespace Schedule

/-- Whether a deed is in the queue. -/
def expects (s : Schedule) (d : Deed) : Bool := s.queue.any (·.deed == d)

/-- Puts a deed at the back, to be done when it has come to the front so many times. A deed that is
in the queue already keeps its place. -/
def plan (s : Schedule) (rounds : Nat) (d : Deed) : Schedule :=
  if s.expects d then s else { s with queue := s.queue ++ [⟨d, rounds⟩] }

/-- How often what concerns the readers and the exit watch of a process still comes to the front. -/
def roundsLeft (s : Schedule) (p : ProcessId) : Nat :=
  s.queue.foldl (fun most d => if d.deed.process? = some p then max most d.rounds else most) 0

/-- Forgets all that was to happen to a task. -/
def forget (s : Schedule) (t : TaskId) : Schedule :=
  { s with
    queue := s.queue.filter fun d => d.deed.task? != some t
    timers := s.timers.filter fun timer => timer.task != t }

def hasTimer (s : Schedule) (t : TaskId) : Bool := s.timers.any (·.task == t)

/-- A number of seconds in nanoseconds. -/
def nanoseconds (seconds : Float) : Nat :=
  let x := Decimal.Binary.ofBits seconds.toBits.toNat
  Decimal.floorScaled x.significand x.exponent (-9)

/-- Starts a timer for a task, unless it has one. -/
def await (s : Schedule) (t : TaskId) (seconds : Float) : Schedule :=
  if s.hasTimer t then s
  else { s with timers := s.timers ++ [⟨t, s.clock + nanoseconds seconds⟩] }

/-- How many rounds lie between the end of a task's patience and its next step: it wakes, gives up
what it waited for, and waits until that is gone. -/
def timeoutRounds : Nat := 4

/-- The timers that run out first do so together. -/
def ring? (s : Schedule) : Option Schedule :=
  match (s.timers.map (·.deadline)).min? with
  | none => none
  | some clock =>
    let due := s.timers.filter (·.deadline = clock)
    let rest : Schedule := { s with timers := s.timers.filter (·.deadline ≠ clock), clock }
    some (due.foldl (fun s timer => s.plan timeoutRounds (.timeout timer.task)) rest)

/-- The deed whose turn it is, if the one at the front is to be done; the others have moved up. -/
def next? (s : Schedule) : Option (Option Deed × Schedule) :=
  match s.queue with
  | [] => s.ring?.map fun s => (none, s)
  | ⟨d, rounds⟩ :: rest =>
    if rounds ≤ 1 then some (some d, { s with queue := rest })
    else some (none, { s with queue := rest ++ [⟨d, rounds - 1⟩] })

end Schedule

end Datapack.Simulation
