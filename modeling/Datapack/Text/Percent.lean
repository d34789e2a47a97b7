import Datapack.Text.Utf8

/-! Percent-encoding of UTF-8. Letters, digits and a few marks stand for themselves, everything
else is written byte by byte; reading back keeps what is no escape and repairs invalid UTF-8. -/

namespace Datapack.Text

/-- Characters that need no escape in a path: ASCII letters and digits, `_ . - ~` and `/`. -/
def isPlainInPath (c : Char) : Bool :=
  c.toNat < 128 && (c.isAlphanum || ['_', '.', '-', '~', '/'].contains c)

def hexDigitUpper (n : Nat) : Char :=
  if n < 10 then Char.ofNat (48 + n) else Char.ofNat (55 + n)

def percentByte (b : UInt8) : List Char :=
  ['%', hexDigitUpper (b.toNat / 16), hexDigitUpper (b.toNat % 16)]

/-- Escapes every byte of every character that is not plain. -/
def percentEncode (cs : List Char) : List Char :=
  cs.flatMap fun c => if isPlainInPath c then [c] else (encodeChar c).flatMap percentByte

def hexValue? (c : Char) : Option Nat :=
  if '0' ≤ c && c ≤ '9' then some (c.toNat - 48)
  else if 'a' ≤ c && c ≤ 'f' then some (c.toNat - 87)
  else if 'A' ≤ c && c ≤ 'F' then some (c.toNat - 55)
  else none

/-- One unit of an escaped text: a character that stands for itself, or an escaped byte. -/
inductive EscapeUnit where
  | plain (c : Char)
  | byte (b : UInt8)
deriving DecidableEq, Repr

/-- The units of an escaped text. A percent sign without two hexadecimal digits is plain. -/
def escapeUnits : List Char → List EscapeUnit
  | '%' :: a :: b :: rest =>
    match hexValue? a, hexValue? b with
    | some x, some y => .byte (UInt8.ofNat (16 * x + y)) :: escapeUnits rest
    | _, _ => .plain '%' :: escapeUnits (a :: b :: rest)
  | c :: rest => .plain c :: escapeUnits rest
  | [] => []

/-- Decodes each run of escaped bytes as a whole; `pending` is the current run, reversed. -/
def joinUnits (pending : Bytes) : List EscapeUnit → List Char
  | [] => decodeLossy pending.reverse
  | .byte b :: rest => joinUnits (b :: pending) rest
  | .plain c :: rest => decodeLossy pending.reverse ++ c :: joinUnits [] rest

/-- Reads escapes back. -/
def percentDecode (cs : List Char) : List Char := joinUnits [] (escapeUnits cs)

end Datapack.Text
