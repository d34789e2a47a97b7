import Datapack.Json.Shown
import Datapack.Text.Compatibility
import Datapack.Text.NameChar

/-! Parameters that clients send in more than one shape. -/

namespace Datapack.Server

open Text

mutual

/-- The text argument of a notification: bare, as the first item of an array, or under `path`. -/
def textArgument : Json → Option String
  | .str s => some s
  | .arr items => firstArgument items
  | .obj fields => (fields.lookup "path").bind Json.str?
  | _ => none

def firstArgument : List Json → Option String
  | [] => none
  | j :: _ => textArgument j

end

/-- The section of a configuration that is ours: what stands under our name, or else the whole. -/
def configurationSection : Json → Option (List (String × Json))
  | .obj fields =>
    match fields.lookup "dpscript" with
    | some (.obj own) => some own
    | some _ => none
    | none => some fields
  | _ => none

/-- The parameters of a notification that is not part of the protocol. An object arrives as a
record: its fields have places, and all objects in it are records of the same name. -/
inductive Parameters where
  | plain (value : Json)
  | record (name : String) (fields : List (String × Json))

namespace Parameters

/-- Words that are no names. -/
def reserved : List String :=
  ["False", "None", "True", "and", "as", "assert", "async", "await", "break", "class", "continue",
   "def", "del", "elif", "else", "except", "finally", "for", "from", "global", "if", "import",
   "in", "is", "lambda", "nonlocal", "not", "or", "pass", "raise", "return", "try", "while",
   "with", "yield"]

/-- Whether a text is a name. -/
def isName (s : String) : Bool := isNameLike s.toList && !reserved.contains s

/-- The name of the field at a place: its key, unless the key is no name or starts with an
underscore. -/
def fieldName (place : Nat) (key : String) : String :=
  if isName key && key.toList.head? != some '_' then key else "_" ++ toString place

/-- The names of the fields of a record. -/
def fieldNames (fields : List (String × Json)) : List String :=
  fields.zipIdx.map fun (field, place) => fieldName place field.1

/-- Whether the names of a record can be told apart: no two are made of the same. -/
def distinctNames (fields : List (String × Json)) : Bool :=
  decide ((fieldNames fields).map decomposition).Nodup

mutual

/-- Whether the names of all records in a value can be told apart. -/
def wellNamed : Json → Bool
  | .arr items => wellNamedItems items
  | .obj fields => distinctNames fields && wellNamedFields fields
  | _ => true

def wellNamedItems : List Json → Bool
  | [] => true
  | j :: rest => wellNamed j && wellNamedItems rest

def wellNamedFields : List (String × Json) → Bool
  | [] => true
  | (_, j) :: rest => wellNamed j && wellNamedFields rest

end

mutual

/-- A value in a record, with objects shown as records of the same name. -/
def shownIn (name : String) : Json → String
  | .arr items => "[" ++ String.intercalate ", " (shownItemsIn name items) ++ "]"
  | .obj fields => name ++ "(" ++ String.intercalate ", " (shownFieldsIn name 0 fields) ++ ")"
  | j => j.shown

def shownItemsIn (name : String) : List Json → List String
  | [] => []
  | j :: rest => shownIn name j :: shownItemsIn name rest

def shownFieldsIn (name : String) (place : Nat) : List (String × Json) → List String
  | [] => []
  | (key, j) :: rest =>
    (fieldName place key ++ "=" ++ shownIn name j) :: shownFieldsIn name (place + 1) rest

end

def shown : Parameters → String
  | plain j => j.shown
  | record name fields => shownIn name (.obj fields)

mutual

/-- The text in the first place of a value. -/
def leading : Json → Option String
  | .str s => some s
  | .arr items => leadingItem items
  | .obj fields => leadingField fields
  | _ => none

def leadingItem : List Json → Option String
  | [] => none
  | j :: _ => leading j

def leadingField : List (String × Json) → Option String
  | [] => none
  | (_, j) :: _ => leading j

end

/-- The text argument: of a record, the one in its first place, whatever its key. -/
def argument : Parameters → Option String
  | plain j => textArgument j
  | record _ fields => leadingField fields

/-- The name a record gets if it does not give one. -/
def usualName : String := "Object"

/-- Reads parameters. An object may name its record under `type_name`, whose text must be a name, and
the fields of all records in it must have distinct names. -/
def read? : Json → Option Parameters
  | .obj fields =>
    let rest := fields.filter fun f => f.1 != "type_name"
    let name := ((fields.lookup "type_name").map Json.asText).getD usualName
    if isName name && wellNamed (.obj rest) then some (.record name rest) else none
  | j => some (.plain j)

end Parameters

end Datapack.Server
