import Datapack.Decimal.Shortest

/-! Doubles as text: positional between `10 ^ -4` and `10 ^ 16`, with an exponent beyond, and fixed
places for durations. -/

namespace Datapack.Decimal

/-- How a shortest decimal is laid out. -/
structure Layout where
  /-- The least exponent of the leading digit that is written positionally. -/
  least : Int
  /-- The least exponent of the leading digit that is not, from above. -/
  bound : Int
  /-- The fewest digits of an exponent. -/
  exponentWidth : Nat

/-- Values in answers and messages. -/
def Layout.plain : Layout := ⟨-4, 16, 2⟩

def zeros (n : Nat) : String := String.ofList (List.replicate n '0')

/-- Digits with the point after the first `point` of them. -/
def positional (digits : String) (point : Int) : String :=
  let n := digits.length
  if point ≤ 0 then "0." ++ zeros (-point).toNat ++ digits
  else if (n : Int) ≤ point then digits ++ zeros (point.toNat - n) ++ ".0"
  else String.ofList (digits.toList.take point.toNat) ++ "." ++
    String.ofList (digits.toList.drop point.toNat)

/-- Digits with one digit before the point and an exponent. -/
def scientific (layout : Layout) (digits : String) (leading : Int) : String :=
  let tail := String.ofList (digits.toList.drop 1)
  let mantissa := String.ofList (digits.toList.take 1) ++ (if tail.isEmpty then "" else "." ++ tail)
  let power := toString leading.natAbs
  mantissa ++ "e" ++ (if leading < 0 then "-" else "+") ++
    zeros (layout.exponentWidth - power.length) ++ power

def Layout.write (layout : Layout) (s : Shortest) : String :=
  let digits := toString s.digits
  let leading : Int := (digits.length : Int) - 1 + s.exponent
  if layout.least ≤ leading && leading < layout.bound then positional digits (leading + 1)
  else scientific layout digits leading

/-- The text of a double. -/
def floatText (x : Float) : String :=
  let bits := x.toBits.toNat
  let magnitude := bits % signBit
  if infinityBits < magnitude then "nan"
  else
    let sign := if bits = magnitude then "" else "-"
    let body :=
      if magnitude = infinityBits then "inf"
      else if magnitude = 0 then "0.0"
      else Layout.plain.write (Binary.ofBits magnitude).shortest
    sign ++ body

/-- A positive double with one decimal place, rounded to nearest and a half to the even digit. -/
def onePlace (x : Float) : String :=
  let magnitude := x.toBits.toNat % signBit
  if infinityBits < magnitude then "nan"
  else if magnitude = infinityBits then "inf"
  else
    let b := Binary.ofBits magnitude
    let tenths := roundDiv (10 * b.significand * pow2 b.exponent.toNat) (pow2 (-b.exponent).toNat)
    toString (tenths / 10) ++ "." ++ toString (tenths % 10)

/-- The integer a double equals, if it equals one. -/
def wholeValue? (x : Float) : Option Int :=
  let bits := x.toBits.toNat
  let magnitude := bits % signBit
  if infinityBits ≤ magnitude then none
  else
    let b := Binary.ofBits magnitude
    let num := b.significand * pow2 b.exponent.toNat
    let den := pow2 (-b.exponent).toNat
    if num % den = 0 then
      let n : Int := num / den
      some (if bits = magnitude then n else -n)
    else none

/-- The integer part of a double: its fraction dropped, towards zero. -/
def integerPart? (x : Float) : Option Int :=
  let bits := x.toBits.toNat
  let magnitude := bits % signBit
  if infinityBits ≤ magnitude then none
  else
    let b := Binary.ofBits magnitude
    let n : Int := b.significand * pow2 b.exponent.toNat / pow2 (-b.exponent).toNat
    some (if bits = magnitude then n else -n)

end Datapack.Decimal
