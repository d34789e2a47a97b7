import Datapack.Selector.Scan
import Datapack.Selector.Word

/-! Which completion applies at a cursor. The rules are tried in the order parameter, member,
target, each only when the typed character, if any, belongs to it. -/

namespace Datapack.Selector

/-- What is completed, with the offset it hangs on. -/
inductive Context where
  /-- A selector head; the anchor is where the head starts. -/
  | target (anchor : Nat)
  /-- A parameter; the anchor is the opening bracket. -/
  | param (anchor : Nat)
  /-- A member; the anchor is the dot. -/
  | member (anchor : Nat)
deriving DecidableEq, Repr

/-- The last offset at which a character occurs. -/
def lastIndex? (c : Char) (cs : List Char) : Option Nat :=
  (cs.reverse.idxOf? c).map fun i => cs.length - 1 - i

/-- Order of offsets in which a missing offset comes first. -/
def precedes : Option Nat → Option Nat → Bool
  | none, some _ => true
  | some i, some j => i < j
  | _, none => false

/-- The closing bracket before the last one. -/
def previousClose? (cs : List Char) : Option Nat :=
  lastIndex? ']' (cs.take ((lastIndex? ']' cs).getD 0))

/-- Whether the last `@` owns the bracket groups around it: it comes before the last `[`, if there
is one, and after the `]` that precedes the last `]`. -/
def ownsGroups (cs : List Char) : Bool :=
  let at? := lastIndex? '@' cs
  let bracket? := lastIndex? '[' cs
  (bracket?.isNone || precedes at? bracket?) && precedes (previousClose? cs) at?

/-- Parameters are completed inside the bracket of a selector. -/
def paramRule (line : List Char) (cursor : Nat) : Option Context :=
  match scan (line.take cursor) with
  | .inBracket bracket => some (.param bracket)
  | _ => none

/-- The dot a member would follow: directly before the cursor or, without a typed character,
directly before the word touching the cursor. -/
def memberDot? (line : List Char) (cursor : Nat) (trigger : Option String) : Option Nat :=
  if charBefore? line cursor = some '.' then some (cursor - 1)
  else if trigger.isNone then
    match wordAt? line cursor with
    | some (start, _) => if charBefore? line start = some '.' then some (start - 1) else none
    | none => none
  else none

/-- Whether the machine has read a complete selector. -/
def Scan.isComplete : Scan → Bool
  | .afterClose => true
  | .afterAt head => 0 < head
  | _ => false

/-- Members are completed after a selector that owns its brackets. -/
def memberRule (line : List Char) (cursor : Nat) (trigger : Option String) : Option Context := do
  let dot ← memberDot? line cursor trigger
  let before := line.take dot
  if (scan before).isComplete && ownsGroups before then some (.member dot) else none

/-- Heads are completed after a typed `@`, and in a word directly after an `@`. -/
def targetRule (line : List Char) (cursor : Nat) (trigger : Option String) : Option Context :=
  if trigger = some "@" then some (.target cursor)
  else
    match wordAt? line cursor with
    | some (start, _) => if charBefore? line start = some '@' then some (.target start) else none
    | none => none

/-- Whether a rule is tried: without a typed character always, else only for its own. -/
def admits (own : List String) : Option String → Bool
  | none => true
  | some t => own.contains t

/-- The completion context at a cursor. -/
def contextAt (line : List Char) (cursor : Int) (trigger : Option String) : Option Context :=
  let cursor := clampCursor line cursor
  (if admits ["[", ","] trigger then paramRule line cursor else none) <|>
  (if admits ["."] trigger then memberRule line cursor trigger else none) <|>
  (if admits ["@"] trigger then targetRule line cursor trigger else none)

end Datapack.Selector
