import Datapack.Json.Shown
import Datapack.Text.Integer
import Datapack.Validation

/-! Shapes of the parameters that messages carry. Reading is lenient: everything reads as text and as
a truth value, what reads as an integer counts as one, and whatever has items counts as a list. -/

namespace Datapack.Server

open Text Decimal

inductive Shape where
  | any
  | text
  | flag
  /-- An integer, within bounds if there are any. -/
  | integer (bounds : Option (Int × Int))
  /-- A number, whole or not. -/
  | real
  /-- One of some numbers. -/
  | oneOf (values : List Int)
  /-- One of some words. -/
  | word (values : List String)
  /-- Anything but arrays and objects. -/
  | scalar
  /-- May be missing or null. -/
  | optional (shape : Shape)
  | list (item : Shape)
  | record (fields : List (String × Shape))
  /-- An object with any keys. -/
  | mapping (value : Shape)
  /-- A text, or else something else. -/
  | textOr (shape : Shape)
  /-- A truth value, or else something else. -/
  | flagOr (shape : Shape)
  /-- One shape for what has a key, another one for what does not. -/
  | keyed (key : String) (present absent : Shape)
  /-- The shape that goes with the word under `kind`. -/
  | kinds (shapes : List (String × Shape))

/-- A value read as an integer. -/
def readInteger? : Json → Option Int
  | .int n => some n
  | .bool b => some (if b then 1 else 0)
  | .float x => integerPart? x
  | .str s => (parseInteger s.toList).toOption
  | _ => none

/-- The number a value equals. -/
def equalNumber? : Json → Option Int
  | .int n => some n
  | .bool b => some (if b then 1 else 0)
  | .float x => wholeValue? x
  | _ => none

/-- Whether a value reads as a number. -/
def readsAsReal : Json → Bool
  | .int _ | .float _ | .bool _ => true
  | .str s => (Json.floatOfText s).toOption.isSome
  | _ => false

/-- The items of what has items: the keys of an object, the characters of a text. -/
def itemsOf? : Json → Option (List Json)
  | .arr items => some items
  | .obj fields => some (fields.map fun f => .str f.1)
  | .str s => some (s.toList.map fun c => .str (String.singleton c))
  | _ => none

/-- Whether a value holds a key: as a key, as an item, or as a piece of text. -/
def holds? (key : String) : Json → Option Bool
  | .obj fields => some ((fields.lookup key).isSome)
  | .arr items => some (items.any fun j => j.str? == some key)
  | .str s => some (occursIn key.toList s.toList)
  | _ => none

namespace Shape

def isOptional : Shape → Bool
  | optional _ => true
  | _ => false

mutual

/-- Whether a value has a shape. -/
def accepts : Shape → Json → Bool
  | any, _ => true
  | text, _ => true
  | flag, _ => true
  | integer none, j => (readInteger? j).isSome
  | integer (some (least, most)), j =>
    (readInteger? j).any fun n => decide (least ≤ n) && decide (n ≤ most)
  | real, j => readsAsReal j
  | oneOf values, j => (equalNumber? j).any values.contains
  | word values, j => j.str?.any values.contains
  | scalar, j =>
    match j with
    | .arr _ | .obj _ => false
    | _ => true
  | optional shape, j =>
    match j with
    | .null => true
    | j => accepts shape j
  | list item, j => (itemsOf? j).any fun items => items.all (accepts item)
  | record fields, j =>
    match j with
    | .obj given => acceptsFields fields given
    | j => fields.all fun f => f.2.isOptional && holds? f.1 j == some false
  | mapping value, j =>
    match j with
    | .obj given => given.all fun f => accepts value f.2
    | _ => false
  | textOr shape, j =>
    match j with
    | .str _ => true
    | j => accepts shape j
  | flagOr shape, j =>
    match j with
    | .bool _ => true
    | j => accepts shape j
  | keyed key present absent, j =>
    match holds? key j with
    | some true => accepts present j
    | some false => accepts absent j
    | none => false
  | kinds shapes, j => acceptsKind shapes ((j.field? "kind").bind Json.str?) j

/-- Whether every field that is there has its shape, and only optional fields are missing. -/
def acceptsFields : List (String × Shape) → List (String × Json) → Bool
  | [], _ => true
  | (name, shape) :: rest, given =>
    (match given.lookup name with
      | some j => accepts shape j
      | none => shape.isOptional) && acceptsFields rest given

/-- Whether a value has the shape that goes with its kind. -/
def acceptsKind : List (String × Shape) → Option String → Json → Bool
  | [], _, _ => false
  | (name, shape) :: rest, kind, j =>
    if kind = some name then accepts shape j else acceptsKind rest kind j

end

end Shape

end Datapack.Server
