/-! Locks that are granted in the order of the requests. -/

namespace Datapack.Machine

abbrev TaskId := Nat

structure Lock where
  owner : Option TaskId := none
  queue : List TaskId := []
deriving DecidableEq, Repr

namespace Lock

/-- Takes the lock if it is free, else queues for it. -/
def acquire (l : Lock) (t : TaskId) : Lock :=
  match l.owner with
  | none => { l with owner := some t }
  | some _ => { l with queue := l.queue ++ [t] }

/-- Hands the lock to the first in the queue. -/
def release (l : Lock) : Lock := ⟨l.queue.head?, l.queue.tail⟩

end Lock

end Datapack.Machine
