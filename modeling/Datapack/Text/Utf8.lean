/-! UTF-8: encoding, strict decoding, and decoding in which every maximal invalid part becomes one
replacement character. -/

namespace Datapack.Text

abbrev Bytes := List UInt8

/-- The UTF-8 form of one character. -/
def encodeChar (c : Char) : Bytes :=
  let n := c.toNat
  if n < 0x80 then [UInt8.ofNat n]
  else if n < 0x800 then [UInt8.ofNat (0xC0 + n / 64), UInt8.ofNat (0x80 + n % 64)]
  else if n < 0x10000 then
    [UInt8.ofNat (0xE0 + n / 4096), UInt8.ofNat (0x80 + n / 64 % 64), UInt8.ofNat (0x80 + n % 64)]
  else
    [UInt8.ofNat (0xF0 + n / 262144), UInt8.ofNat (0x80 + n / 4096 % 64),
     UInt8.ofNat (0x80 + n / 64 % 64), UInt8.ofNat (0x80 + n % 64)]

def encodeChars (cs : List Char) : Bytes := cs.flatMap encodeChar

def encodeUtf8 (s : String) : Bytes := encodeChars s.toList

/-- The continuation bytes a lead byte asks for, and the range of the first of them. -/
def leadByte (b : Nat) : Option (Nat × Nat × Nat) :=
  if 0xC2 ≤ b && b ≤ 0xDF then some (1, 0x80, 0xBF)
  else if b == 0xE0 then some (2, 0xA0, 0xBF)
  else if b == 0xED then some (2, 0x80, 0x9F)
  else if 0xE1 ≤ b && b ≤ 0xEF then some (2, 0x80, 0xBF)
  else if b == 0xF0 then some (3, 0x90, 0xBF)
  else if 0xF1 ≤ b && b ≤ 0xF3 then some (3, 0x80, 0xBF)
  else if b == 0xF4 then some (3, 0x80, 0x8F)
  else none

/-- The payload of a lead byte that asks for `count` continuation bytes. -/
def leadPayload (count b : Nat) : Nat :=
  match count with
  | 1 => b - 0xC0
  | 2 => b - 0xE0
  | _ => b - 0xF0

/-- Reads up to `count` continuation bytes, the first of them within `lo` and `hi`: how many were
there, and the code point if all were. -/
def continuation : (count lo hi acc : Nat) → Bytes → Nat × Option Nat
  | 0, _, _, acc, _ => (0, some acc)
  | _ + 1, _, _, _, [] => (0, none)
  | count + 1, lo, hi, acc, b :: rest =>
    if lo ≤ b.toNat && b.toNat ≤ hi then
      let (used, code) := continuation count 0x80 0xBF (acc * 64 + (b.toNat - 0x80)) rest
      (used + 1, code)
    else (0, none)

/-- What the bytes that follow a first byte make of it: how many of them belong to its character
or to its invalid part, and the character unless invalid. -/
def decodeStep (b : UInt8) (rest : Bytes) : Nat × Option Char :=
  if b.toNat < 0x80 then (0, some (Char.ofNat b.toNat))
  else
    match leadByte b.toNat with
    | none => (0, none)
    | some (count, lo, hi) =>
      let (used, code) := continuation count lo hi (leadPayload count b.toNat) rest
      (used, code.map Char.ofNat)

/-- The character that stands for an invalid part. -/
def replacement : Char := Char.ofNat 0xFFFD

/-- Reads bytes as characters, `none` for each maximal invalid part. -/
def decodeParts : Bytes → List (Option Char)
  | [] => []
  | b :: rest =>
    let (used, c) := decodeStep b rest
    c :: decodeParts (rest.drop used)
termination_by bs => bs.length
decreasing_by simp only [List.length_cons, List.length_drop]; omega

/-- Decoding that never fails. -/
def decodeLossy (bs : Bytes) : List Char := (decodeParts bs).map (·.getD replacement)

/-- Decoding that refuses invalid parts. -/
def decodeStrict? (bs : Bytes) : Option (List Char) := (decodeParts bs).mapM id

end Datapack.Text
