/-! Double precision numbers from decimals, rounded to nearest in exact arithmetic. -/

namespace Datapack.Decimal

/-- Powers of two. -/
def pow2 (n : Nat) : Nat := Nat.pow 2 n

/-- Powers of ten. -/
def pow10 (n : Nat) : Nat := Nat.pow 10 n

/-- The place of the leading bit of a significand, `2 ^ 52`. -/
def leadingBit : Nat := 0x10000000000000

/-- The place of the sign among the bits of a double, `2 ^ 63`. -/
def signBit : Nat := 0x8000000000000000

/-- Divides and rounds to nearest, a half to the even neighbour. -/
def roundDiv (num den : Nat) : Nat :=
  let q := num / den
  let r := num % den
  if den < 2 * r || (2 * r == den && q % 2 == 1) then q + 1 else q

/-- `num / (den * 2 ^ e)` as a fraction of natural numbers. -/
def scaled (num den : Nat) (e : Int) : Nat × Nat :=
  if 0 ≤ e then (num, den * pow2 e.toNat) else (num * pow2 (-e).toNat, den)

/-- The exponent at which `num / den` has a significand of 53 bits, but no less than that of the
smallest doubles. -/
def binaryExponent (num den : Nat) : Int :=
  let guess : Int := (Nat.log2 num : Int) - Nat.log2 den - 52
  let (n, d) := scaled num den guess
  max (-1074) (if n / d < leadingBit then guess - 1 else guess)

/-- The bits of positive infinity. -/
def infinityBits : Nat := 0x7FF0000000000000

/-- The bits of the double nearest to `num / den`. -/
def nearestBits (num den : Nat) : Nat :=
  if num = 0 then 0
  else
    let e := binaryExponent num den
    let (n, d) := scaled num den e
    let q := roundDiv n d
    if q < leadingBit then q
    else
      let bits := (e + 1075).toNat * leadingBit + (q - leadingBit)
      if infinityBits < bits then infinityBits else bits

/-- A finite decimal: `digits * 10 ^ exponent`, with its sign. -/
structure Finite where
  negative : Bool
  digits : Nat
  exponent : Int
deriving DecidableEq, Repr

/-- The double nearest to a decimal. Exponents far outside the range of doubles are not computed. -/
def Finite.toFloat (x : Finite) : Float :=
  let size : Int := (Nat.toDigits 10 x.digits).length + x.exponent
  let bits :=
    if x.digits = 0 || size < -400 then 0
    else if 400 < size then infinityBits
    else if 0 ≤ x.exponent then nearestBits (x.digits * pow10 x.exponent.toNat) 1
    else nearestBits x.digits (pow10 (-x.exponent).toNat)
  Float.ofBits (UInt64.ofNat (if x.negative then bits + signBit else bits))

/-- The double nearest to an integer. -/
def floatOfInt (n : Int) : Float := Finite.toFloat ⟨n < 0, n.natAbs, 0⟩

end Datapack.Decimal
