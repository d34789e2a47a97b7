import Datapack.Json.Value

/-! JSON values as text. -/

namespace Datapack.Json

open Datapack.Text Datapack.Decimal

/-- A character inside a string: quotes, backslashes and controls are escaped. -/
def writeChar (c : Char) : List Char :=
  if c = '\x22' || c = '\\' then ['\\', c]
  else if c.toNat < 0x20 then '\\' :: 'u' :: hexPadded 4 c.toNat
  else [c]

def writeString (s : String) : String := "\"" ++ String.ofList (s.toList.flatMap writeChar) ++ "\""

mutual

/-- The text of a value, on one line. -/
def write : Json → String
  | .null => "null"
  | .bool b => if b then "true" else "false"
  | .int n => toString n
  | .float x => floatText x
  | .str s => writeString s
  | .arr items => "[" ++ String.intercalate ", " (writeItems items) ++ "]"
  | .obj fields => "\x7b" ++ String.intercalate ", " (writeFields fields) ++ "\x7d"

def writeItems : List Json → List String
  | [] => []
  | j :: rest => write j :: writeItems rest

def writeFields : List (String × Json) → List String
  | [] => []
  | (key, j) :: rest => (writeString key ++ ": " ++ write j) :: writeFields rest

end

end Datapack.Json
