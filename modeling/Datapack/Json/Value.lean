import Datapack.Decimal.Text
import Datapack.Text.Quoted

/-! JSON values. Integers are kept apart from numbers with a point or an exponent, and objects keep
the order of their keys. -/

namespace Datapack

inductive Json where
  | null
  | bool (b : Bool)
  | int (n : Int)
  | float (x : Float)
  | str (s : String)
  | arr (items : List Json)
  | obj (fields : List (String × Json))

namespace Json

/-- The value of a key, if the value is an object that has it. -/
def field? (key : String) : Json → Option Json
  | obj fields => fields.lookup key
  | _ => none

def str? : Json → Option String
  | str s => some s
  | _ => none

end Json

end Datapack
