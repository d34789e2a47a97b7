import Datapack.Json.Value

/-! Values as messages show them. -/

namespace Datapack.Json

open Datapack.Text Datapack.Decimal

mutual

/-- A value in a message: texts in quotes, names for the absent and for truth values. -/
def shown : Json → String
  | .null => "None"
  | .bool b => if b then "True" else "False"
  | .int n => toString n
  | .float x => floatText x
  | .str s => quoted s
  | .arr items => "[" ++ String.intercalate ", " (shownItems items) ++ "]"
  | .obj fields => "\x7b" ++ String.intercalate ", " (shownFields fields) ++ "\x7d"

def shownItems : List Json → List String
  | [] => []
  | j :: rest => j.shown :: shownItems rest

def shownFields : List (String × Json) → List String
  | [] => []
  | (key, j) :: rest => (quoted key ++ ": " ++ j.shown) :: shownFields rest

end

/-- A value read as text: a text is itself, anything else as it is shown. -/
def asText : Json → String
  | .str s => s
  | j => j.shown

end Datapack.Json
