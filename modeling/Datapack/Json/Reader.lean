import Datapack.Json.Value
import Datapack.Ordered
import Datapack.Text.Integer

/-! Reading JSON. The reader is strict, but for `NaN`, `Infinity` and `-Infinity`, which it takes as
numbers. Of a repeated key the last value wins. -/

namespace Datapack.Json

open Datapack.Text Datapack.Decimal

/-- What a reader refuses beyond bad syntax. -/
structure Limits where
  /-- How many non-empty arrays and objects may stand inside each other. -/
  depth : Nat
  /-- How many digits may stand before a point, a minus sign counted with them. -/
  digits : Nat

/-- Limits for compiler reports. -/
def Limits.report : Limits := ⟨200, 4300⟩

abbrev Rest := List Char

def isJsonBlank (c : Char) : Bool := c == ' ' || c == '\n' || c == '\r' || c == '\t'

def skipBlanks (cs : Rest) : Rest := cs.dropWhile isJsonBlank

/-- Drops an expected text. -/
def expect? (text : List Char) (cs : Rest) : Option Rest :=
  if text.isPrefixOf cs then some (cs.drop text.length) else none

/-- Four hexadecimal digits. -/
def hex4? : Rest → Option (Nat × Rest)
  | a :: b :: c :: d :: rest => do
    let digit (c : Char) : Option Nat :=
      if c.isDigit then some (c.toNat - 48)
      else if 'a' ≤ c && c ≤ 'f' then some (c.toNat - 87)
      else if 'A' ≤ c && c ≤ 'F' then some (c.toNat - 55)
      else none
    let w ← digit a
    let x ← digit b
    let y ← digit c
    let z ← digit d
    return (((w * 16 + x) * 16 + y) * 16 + z, rest)
  | _ => none

def isHighSurrogate (n : Nat) : Bool := 0xD800 ≤ n && n ≤ 0xDBFF

def isLowSurrogate (n : Nat) : Bool := 0xDC00 ≤ n && n ≤ 0xDFFF

/-- The character of a `\u` escape, whose letter was read. Surrogates must come in pairs. -/
def unicodeEscape? (cs : Rest) : Option (Char × Rest) := do
  let (n, rest) ← hex4? cs
  if isHighSurrogate n then
    let (m, rest) ← expect? ['\\', 'u'] rest >>= hex4?
    if isLowSurrogate m then
      return (Char.ofNat (0x10000 + (n - 0xD800) * 0x400 + (m - 0xDC00)), rest)
    else none
  else if isLowSurrogate n then none
  else return (Char.ofNat n, rest)

/-- The character of an escape, whose backslash was read. -/
def escape? : Rest → Option (Char × Rest)
  | 'u' :: rest => unicodeEscape? rest
  | '\x22' :: rest => some ('\x22', rest)
  | '\\' :: rest => some ('\\', rest)
  | '/' :: rest => some ('/', rest)
  | 'b' :: rest => some ('\x08', rest)
  | 'f' :: rest => some ('\x0c', rest)
  | 'n' :: rest => some ('\n', rest)
  | 'r' :: rest => some ('\r', rest)
  | 't' :: rest => some ('\t', rest)
  | _ => none

/-- The rest of a string whose opening quote was read; `seen` is what was read of it, reversed. -/
def string? (fuel : Nat) (seen : List Char) (cs : Rest) : Option (String × Rest) :=
  match fuel, cs with
  | 0, _ => none
  | _, [] => none
  | fuel + 1, c :: rest =>
    if c = '\x22' then some (String.ofList seen.reverse, rest)
    else if c = '\\' then
      match escape? rest with
      | some (e, rest) => string? fuel (e :: seen) rest
      | none => none
    else if c.toNat < 0x20 then none
    else string? fuel (c :: seen) rest

/-- The value of ASCII digits. -/
def digitsValue (ds : List Char) : Nat := ofDigits (ds.map fun c => c.toNat - 48)

/-- A fraction: the digits after a point. -/
def fraction? : Rest → Option (List Char × Rest)
  | '.' :: rest =>
    let ds := rest.takeWhile Char.isDigit
    if ds.isEmpty then none else some (ds, rest.dropWhile Char.isDigit)
  | rest => some ([], rest)

/-- An exponent. -/
def exponent? : Rest → Option (Option Int × Rest)
  | c :: rest =>
    if c = 'e' || c = 'E' then
      let (negative, rest) := splitSign rest
      let ds := rest.takeWhile Char.isDigit
      if ds.isEmpty then none
      else
        let n : Int := digitsValue ds
        some (some (if negative then -n else n), rest.dropWhile Char.isDigit)
    else some (none, c :: rest)
  | [] => some (none, [])

/-- A number whose sign was read. -/
def unsigned? (limits : Limits) (negative : Bool) (cs : Rest) : Option (Json × Rest) := do
  let ds := cs.takeWhile Char.isDigit
  let rest := cs.dropWhile Char.isDigit
  if ds.isEmpty || (1 < ds.length && ds.head? == some '0') then none
  else if limits.digits < ds.length + (if negative then 1 else 0) then none
  else
    let (places, rest) ← fraction? rest
    let (power, rest) ← exponent? rest
    if places.isEmpty && power.isNone then
      let n : Int := digitsValue ds
      return (.int (if negative then -n else n), rest)
    else
      let x : Finite := ⟨negative, digitsValue (ds ++ places), power.getD 0 - places.length⟩
      return (.float x.toFloat, rest)

/-- A number. -/
def number? (limits : Limits) : Rest → Option (Json × Rest)
  | '-' :: rest =>
    match expect? "Infinity".toList rest with
    | some rest => some (.float (Float.ofBits 0xFFF0000000000000), rest)
    | none => unsigned? limits true rest
  | cs => unsigned? limits false cs

/-- A value without parts: a literal name or a number. -/
def scalar? (limits : Limits) (cs : Rest) : Option (Json × Rest) :=
  let names : List (String × Json) :=
    [("null", .null), ("true", .bool true), ("false", .bool false),
     ("NaN", .float (Float.ofBits 0x7FF8000000000000)),
     ("Infinity", .float (Float.ofBits 0x7FF0000000000000))]
  (names.findSome? fun (name, value) => (expect? name.toList cs).map fun rest => (value, rest))
    <|> number? limits cs

mutual

/-- A value at the front of a text without leading blanks. -/
def value? (limits : Limits) (fuel depth : Nat) (cs : Rest) : Option (Json × Rest) :=
  match fuel with
  | 0 => none
  | fuel + 1 =>
    match cs with
    | '\x22' :: rest => (string? fuel [] rest).map fun (s, rest) => (.str s, rest)
    | '[' :: rest =>
      match skipBlanks rest, depth with
      | ']' :: rest, _ => some (.arr [], rest)
      | _, 0 => none
      | rest, depth + 1 => (items? limits fuel depth [] rest).map fun (vs, rest) => (.arr vs, rest)
    | '\x7b' :: rest =>
      match skipBlanks rest, depth with
      | '\x7d' :: rest, _ => some (.obj [], rest)
      | _, 0 => none
      | rest, depth + 1 => (fields? limits fuel depth [] rest).map fun (fs, rest) => (.obj fs, rest)
    | _ => scalar? limits cs

/-- The items of an array from the next item on; `seen` are the earlier ones, reversed. -/
def items? (limits : Limits) (fuel depth : Nat) (seen : List Json) (cs : Rest) :
    Option (List Json × Rest) :=
  match fuel with
  | 0 => none
  | fuel + 1 =>
    match value? limits fuel depth cs with
    | none => none
    | some (v, rest) =>
      match skipBlanks rest with
      | ',' :: rest => items? limits fuel depth (v :: seen) (skipBlanks rest)
      | ']' :: rest => some ((v :: seen).reverse, rest)
      | _ => none

/-- The fields of an object from the next key on, added to `seen`. -/
def fields? (limits : Limits) (fuel depth : Nat) (seen : List (String × Json)) (cs : Rest) :
    Option (List (String × Json) × Rest) :=
  match fuel, cs with
  | 0, _ => none
  | fuel + 1, '\x22' :: rest =>
    match string? fuel [] rest with
    | none => none
    | some (key, rest) =>
      match skipBlanks rest with
      | ':' :: rest =>
        match value? limits fuel depth (skipBlanks rest) with
        | none => none
        | some (v, rest) =>
          match skipBlanks rest with
          | ',' :: rest => fields? limits fuel depth (Ordered.put key v seen) (skipBlanks rest)
          | '\x7d' :: rest => some (Ordered.put key v seen, rest)
          | _ => none
      | _ => none
  | _, _ => none

end

/-- Reads a text that holds one value and blanks. Every call of a part reads at least one
character, so three times the length is fuel enough. -/
def parse? (limits : Limits) (cs : List Char) : Option Json :=
  match value? limits (3 * cs.length + 3) limits.depth (skipBlanks cs) with
  | some (v, rest) => if (skipBlanks rest).isEmpty then some v else none
  | none => none

end Datapack.Json
