import Datapack.Text.Utf8

/-! Output of a process, read by lines. A line longer than the limit is dropped whole if its end is
there; if the end is not yet there, all that has arrived is dropped and what comes later counts as
a new line. -/

namespace Datapack.Machine

open Datapack.Text

/-- Bytes that arrived and were not read yet. -/
structure Pipe where
  buffer : Bytes := []
  /-- No more bytes will come. -/
  ended : Bool := false
  /-- Reading fails. -/
  broken : Bool := false
deriving DecidableEq, Repr

inductive PipeItem where
  | line (bytes : Bytes)
  | dropped
  | finished
  | failure
deriving DecidableEq, Repr

namespace Pipe

def lineFeed : UInt8 := 10

/-- What reading gives next; `none` while it has to wait. -/
def next? (limit : Nat) (p : Pipe) : Option (PipeItem × Pipe) :=
  if p.broken then some (.failure, p)
  else
    let front := p.buffer.takeWhile (· != lineFeed)
    match p.buffer.dropWhile (· != lineFeed) with
    | mark :: rest =>
      if limit < front.length then some (.dropped, { p with buffer := rest })
      else some (.line (front ++ [mark]), { p with buffer := rest })
    | [] =>
      if limit < front.length then some (.dropped, { p with buffer := [] })
      else if p.ended then
        if front.isEmpty then some (.finished, p) else some (.line front, { p with buffer := [] })
      else none

/-- Bytes arrive. -/
def feed (p : Pipe) (bytes : Bytes) : Pipe := { p with buffer := p.buffer ++ bytes }

end Pipe

end Datapack.Machine
