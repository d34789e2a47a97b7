/-! Maps from texts that keep the order in which keys came. -/

namespace Datapack

/-- Pairs in the order in which their keys came; every key occurs once. -/
abbrev Ordered (α : Type) := List (String × α)

namespace Ordered

variable {α : Type}

/-- Sets a key: in its place if it is there, else at the end. -/
def put (key : String) (value : α) : Ordered α → Ordered α
  | [] => [(key, value)]
  | (k, v) :: rest => if k = key then (k, value) :: rest else (k, v) :: put key value rest

/-- Removes a key. -/
def remove (key : String) (m : Ordered α) : Ordered α := m.filter fun p => p.1 != key

def keys (m : Ordered α) : List String := m.map (·.1)

/-- Keys in the order of their first occurrence. -/
def distinct : List String → List String
  | [] => []
  | k :: rest => k :: (distinct rest).filter (· != k)

end Ordered

end Datapack
