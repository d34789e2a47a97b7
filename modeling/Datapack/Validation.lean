import Datapack.Fault
import Datapack.Json.Value
import Datapack.Path

/-! Typed values out of JSON. Every check either gives a value or says what is wrong; the complaints
of several fields are collected in the order of the fields. -/

namespace Datapack

open Text Decimal

/-- A checked value, or what is wrong with it. -/
abbrev Checked (α : Type) := Except (List Issue) α

namespace Checked

def fail {α : Type} (c : Complaint) : Checked α := .error [⟨c, []⟩]

/-- Both values, or the complaints about both. -/
def both {α β : Type} (x : Checked α) (y : Checked β) : Checked (α × β) :=
  match x, y with
  | .ok a, .ok b => .ok (a, b)
  | .ok _, .error f => .error f
  | .error e, .ok _ => .error e
  | .error e, .error f => .error (e ++ f)

/-- Moves complaints under a key. -/
def under {α : Type} (key : PathKey) : Checked α → Checked α
  | .ok a => .ok a
  | .error issues => .error (issues.map (·.within key))

/-- Checks the items of a list, from index `i` on. -/
def each {α β : Type} (check : α → Checked β) (i : Nat) : List α → Checked (List β)
  | [] => .ok []
  | a :: rest => (both ((check a).under (.index i)) (each check (i + 1) rest)).map fun p => p.1 :: p.2

end Checked

namespace Json

open Checked

def asString : Json → Checked String
  | .str s => .ok s
  | _ => fail .notString

def asPath : Json → Checked Path
  | .str s => .ok (Path.ofString s)
  | _ => fail .notPath

/-- How a text reads as an integer in plain form. -/
inductive PlainInteger where
  | value (n : Int)
  /-- More characters in front than are converted, whatever follows them. -/
  | tooLong
  | malformed
deriving DecidableEq, Repr

/-- Reads an integer in plain form: perhaps a minus sign, then ASCII digits without leading zeros.
The sign counts towards the longest integer. -/
def plainInteger (cs : List Char) : PlainInteger :=
  let negative := cs.head? == some '-'
  let body := if negative then cs.drop 1 else cs
  let digits := body.takeWhile Char.isDigit
  if digits.isEmpty || (1 < digits.length && digits.head? == some '0') then .malformed
  else if maxIntegerDigits < digits.length + (cs.length - body.length) then .tooLong
  else if digits.length < body.length then .malformed
  else
    let n := ofDigits (digits.map fun c => c.toNat - 48)
    .value (if negative then -(n : Int) else n)

/-- Whether underscores stand only between other characters. -/
def underscoresInside (cs : List Char) : Bool :=
  cs.head? != some '_' && cs.getLast? != some '_' && !(cs.zip (cs.drop 1)).contains ('_', '_')

/-- A text without its underscores, if they stand only between other characters. -/
def dropUnderscores (cs : List Char) : List Char :=
  if underscoresInside cs then cs.filter (· != '_') else cs

/-- Leading zeros, and underscores among them, vanish before a digit; else the last of them stays. -/
def dropLeadingZeros (cs : List Char) : List Char :=
  if cs.head? != some '0' then cs
  else
    let padding := cs.takeWhile fun c => c == '0' || c == '_'
    let rest := cs.drop padding.length
    if (rest.head?.map Char.isDigit).getD false then rest
    else padding.drop (padding.length - 1) ++ rest

/-- A point and the zeros after it vanish. -/
def dropZeroPlaces (cs : List Char) : List Char :=
  let places := (cs.dropWhile (· != '.')).drop 1
  if places != [] && places.all (· == '0') then cs.takeWhile (· != '.') else cs

/-- Text without blanks around. -/
def bare (s : String) : List Char := dropEndWhile isIntegerBlank (s.toList.dropWhile isIntegerBlank)

/-- The plain form of an integer that is written with a plus sign, leading zeros, zeros after a
point, or underscores. A minus sign does not go with leading zeros. -/
def plainForm (cs : List Char) : List Char :=
  let unsigned :=
    match cs with
    | '+' :: '-' :: _ => cs
    | '+' :: rest => dropLeadingZeros rest
    | cs => dropLeadingZeros cs
  dropUnderscores (dropZeroPlaces unsigned)

/-- An integer in a text. Only a text in plain form can be too long: others are then malformed. -/
def integerOfText (s : String) : Checked Int :=
  match plainInteger s.toList with
  | .value n => .ok n
  | .tooLong => fail .integerSize
  | .malformed =>
    match plainInteger (plainForm (bare s)) with
    | .value n => .ok n
    | _ => fail .integerText

/-- The integers that are taken from a double. -/
def fitsMachineInteger (n : Int) : Bool := n.natAbs < signBit

/-- The integers that fit into a signed word of 64 bits. -/
def isMachineInteger (n : Int) : Bool := decide (-(signBit : Int) ≤ n) && decide (n < (signBit : Int))

def integerOfFloat (x : Float) : Checked Int :=
  match wholeValue? x with
  | none => if x.isFinite then fail .fractional else fail .notFinite
  | some n => if fitsMachineInteger n then .ok n else fail .integerSize

def asInteger : Json → Checked Int
  | .int n => .ok n
  | .bool b => .ok (if b then 1 else 0)
  | .float x => integerOfFloat x
  | .str s => integerOfText s
  | _ => fail .notInteger

/-- Digits, a point, digits, where one side may be empty, and an exponent. -/
def decimalOfText? (cs : List Char) : Option Finite := do
  let (negative, cs) := splitSign cs
  let whole := cs.takeWhile Char.isDigit
  let rest := cs.dropWhile Char.isDigit
  let (places, rest) :=
    match rest with
    | '.' :: rest => (rest.takeWhile Char.isDigit, rest.dropWhile Char.isDigit)
    | rest => ([], rest)
  if whole.isEmpty && places.isEmpty then none
  else
    let value := ofDigits ((whole ++ places).map fun c => c.toNat - 48)
    match rest with
    | [] => some ⟨negative, value, -places.length⟩
    | e :: rest =>
      if e = 'e' || e = 'E' then
        let (down, power) := splitSign rest
        if power.isEmpty || !power.all Char.isDigit then none
        else
          let n : Int := ofDigits (power.map fun c => c.toNat - 48)
          some ⟨negative, value, (if down then -n else n) - places.length⟩
      else none

/-- A number, also one of the names of infinity and of what is no number. -/
def plainFloat? (cs : List Char) : Option Float :=
  match decimalOfText? cs with
  | some x => some x.toFloat
  | none =>
    let (negative, name) := splitSign cs
    let name := String.ofList (name.map Char.toLower)
    if name = "inf" || name = "infinity" then
      some (Float.ofBits (if negative then 0xFFF0000000000000 else 0x7FF0000000000000))
    else if name = "nan" then some (Float.ofBits 0x7FF8000000000000)
    else none

/-- A number in a text: with blanks around, or else with underscores inside. -/
def floatOfText (s : String) : Checked Float :=
  match plainFloat? (bare s) <|> plainFloat? (dropUnderscores s.toList) with
  | some x => .ok x
  | none => fail .numberText

def asFloat : Json → Checked Float
  | .float x => .ok x
  | .int n => if (floatOfInt n).isFinite then .ok (floatOfInt n) else fail .notNumber
  | .bool b => .ok (if b then 1.0 else 0.0)
  | .str s => floatOfText s
  | _ => fail .notNumber

/-- A number above zero. -/
def asPositive (j : Json) : Checked Float :=
  match j.asFloat with
  | .ok x => if 0.0 < x then .ok x else fail .notPositive
  | .error e => .error e

def asList {α : Type} (inReport : Bool) (check : Json → Checked α) : Json → Checked (List α)
  | .arr items => Checked.each check 0 items
  | _ => fail (.notList inReport)

/-- A list of strings, or nothing. -/
def asStrings? : Json → Checked (Option (List String))
  | .null => .ok none
  | j => (j.asList false asString).map some

/-- A field that has to be there. -/
def required {α : Type} (name : String) (check : Json → Checked α) (fields : List (String × Json)) :
    Checked α :=
  match fields.lookup name with
  | none => .error [⟨.missing, [.field name]⟩]
  | some j => (check j).under (.field name)

/-- A field with a default. -/
def optional {α : Type} (name : String) (check : Json → Checked α) (default : α)
    (fields : List (String × Json)) : Checked α :=
  match fields.lookup name with
  | none => .ok default
  | some j => (check j).under (.field name)

/-- The fields of an object of a model. -/
def asFields (model : String) (inReport : Bool) : Json → Checked (List (String × Json))
  | .obj fields => .ok fields
  | _ => fail (.notObject model inReport)

end Json

end Datapack
