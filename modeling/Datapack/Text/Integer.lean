import Datapack.Text.Blank
import Datapack.Text.DecimalDigit
import Datapack.Text.Quoted

/-! Integers in decimal: blanks around, one sign, digits of any script, single underscores
between digits, and at most 4300 digits. -/

namespace Datapack.Text

inductive IntegerError where
  /-- The text is no integer. -/
  | malformed (text : String)
  /-- The integer has too many digits to be converted. -/
  | tooLong (digits : Nat)
deriving DecidableEq, Repr

namespace IntegerError

/-- How much of a quoted text is shown, in characters. -/
def shownLength : Nat := 200

def message : IntegerError → String
  | malformed text =>
    "invalid literal for int() with base 10: " ++ String.ofList ((quoted text).toList.take shownLength)
  | tooLong digits =>
    "Exceeds the limit (4300 digits) for integer string conversion: value has " ++ toString digits ++
      " digits; use sys.set_int_max_str_digits() to increase the limit"

end IntegerError

/-- The most digits an integer may have. -/
def maxIntegerDigits : Nat := 4300

/-- Blanks that may stand around an integer: white space but for the information separators. -/
def isIntegerBlank (c : Char) : Bool :=
  isBlank c && !(0x1C ≤ c.toNat && c.toNat ≤ 0x1F)

/-- Digits and the underscores between them. -/
def isDigitOrUnderscore (c : Char) : Bool := c == '_' || (decimalDigit? c).isSome

/-- The digits of a run in which single underscores may stand between two digits. -/
def digitRun? : List Char → Option (List Nat)
  | [] => none
  | [c] => (decimalDigit? c).map ([·])
  | c :: '_' :: rest => do
    let d ← decimalDigit? c
    let ds ← digitRun? rest
    return d :: ds
  | c :: d :: rest => do
    let v ← decimalDigit? c
    let vs ← digitRun? (d :: rest)
    return v :: vs

/-- The number that decimal digits spell, the most significant first. -/
def ofDigits (ds : List Nat) : Nat := ds.foldl (fun n d => 10 * n + d) 0

/-- A sign in front of the digits: whether it is a minus, and the rest. -/
def splitSign : List Char → Bool × List Char
  | '-' :: rest => (true, rest)
  | '+' :: rest => (false, rest)
  | cs => (false, cs)

/-- Reads an integer. The digits are counted before what follows them is looked at. -/
def parseInteger (cs : List Char) : Except IntegerError Int :=
  let (negative, body) := splitSign (cs.dropWhile isIntegerBlank)
  match digitRun? (body.takeWhile isDigitOrUnderscore) with
  | none => .error (.malformed (String.ofList cs))
  | some ds =>
    if maxIntegerDigits < ds.length then .error (.tooLong ds.length)
    else if (body.dropWhile isDigitOrUnderscore).all isIntegerBlank then
      .ok (if negative then -(ofDigits ds : Int) else (ofDigits ds : Int))
    else .error (.malformed (String.ofList cs))

end Datapack.Text
