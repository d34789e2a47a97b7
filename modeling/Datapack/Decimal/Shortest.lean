import Datapack.Decimal.Nearest

/-! The shortest decimal that reads back as a given double, and of those the nearest. -/

namespace Datapack.Decimal

/-- A positive double as `significand * 2 ^ exponent`; `narrow` says that the gap below it is half
the gap above it. -/
structure Binary where
  significand : Nat
  exponent : Int
  narrow : Bool
deriving Repr

def Binary.ofBits (bits : Nat) : Binary :=
  let field : Nat := bits / leadingBit % 2048
  let fraction : Nat := bits % leadingBit
  if field = 0 then ⟨fraction, -1074, false⟩
  else ⟨leadingBit + fraction, (field : Int) - 1075, fraction == 0 && 1 < field⟩

/-- Decimal digits `digits` times `10 ^ exponent`. -/
structure Shortest where
  digits : Nat
  exponent : Int
deriving DecidableEq, Repr

/-- Moves zeros at the end of the digits into the exponent. -/
def Shortest.normalize (s : Shortest) : Nat → Shortest
  | 0 => s
  | fuel + 1 => if s.digits % 10 = 0 then Shortest.normalize ⟨s.digits / 10, s.exponent + 1⟩ fuel else s

/-- Compares `a * 2 ^ p` with `b * 10 ^ k`, in exact arithmetic. -/
def compareScaled (a : Nat) (p : Int) (b : Nat) (k : Int) : Ordering :=
  let left := a * pow2 p.toNat * pow10 (-k).toNat
  let right := b * pow10 k.toNat * pow2 (-p).toNat
  compare left right

/-- `a * 2 ^ p / 10 ^ k`, rounded down. -/
def floorScaled (a : Nat) (p k : Int) : Nat :=
  (a * pow2 p.toNat * pow10 (-k).toNat) / (pow10 k.toNat * pow2 (-p).toNat)

/-- Whether `d * 10 ^ k` reads back as the double: it lies within half a gap of it, ends included
when the significand is even. -/
def Binary.readsBack (x : Binary) (d : Nat) (k : Int) : Bool :=
  let even := x.significand % 2 == 0
  let low := 4 * x.significand - (if x.narrow then 1 else 2)
  let high := 4 * x.significand + 2
  let above := compareScaled low (x.exponent - 2) d k
  let below := compareScaled high (x.exponent - 2) d k
  (above == .lt || (even && above == .eq)) && (below == .gt || (even && below == .eq))

/-- Whether the upper of two neighbours `d` and `d + 1` on the grid `10 ^ k` is the nearer one. -/
def Binary.upperIsNearer (x : Binary) (d : Nat) (k : Int) : Bool :=
  match compareScaled (2 * x.significand) x.exponent (2 * d + 1) k with
  | .gt => true
  | .eq => d % 2 == 1
  | .lt => false

/-- The neighbour of the double on the grid `10 ^ k` that reads back, the nearer one of two. -/
def Binary.onGrid? (x : Binary) (k : Int) : Option Shortest :=
  let d := floorScaled x.significand x.exponent k
  match 0 < d && x.readsBack d k, x.readsBack (d + 1) k with
  | true, true => some ⟨if x.upperIsNearer d k then d + 1 else d, k⟩
  | true, false => some ⟨d, k⟩
  | false, true => some ⟨d + 1, k⟩
  | false, false => none

/-- The decimal exponent of the leading digit. -/
def Binary.leadingExponent (x : Binary) : Int :=
  let whole := floorScaled x.significand x.exponent (-400)
  ((Nat.toDigits 10 whole).length : Int) - 401

/-- Tries grids from coarse to fine. -/
def Binary.shortestFrom (x : Binary) (leading : Int) : Nat → Nat → Shortest
  | 0, used => ⟨floorScaled x.significand x.exponent (leading - used), leading - used⟩
  | fuel + 1, used =>
    match x.onGrid? (leading - used) with
    | some s => s
    | none => x.shortestFrom leading fuel (used + 1)

/-- The decimal with the fewest digits that reads back as the double. Seventeen digits always do. -/
def Binary.shortest (x : Binary) : Shortest := (x.shortestFrom x.leadingExponent 17 0).normalize 17

end Datapack.Decimal
