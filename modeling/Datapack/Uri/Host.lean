import Datapack.Fault
import Datapack.Text.Percent

/-! Hosts in brackets: addresses of the sixth version, or of a future one. -/

namespace Datapack.Uri

open Datapack.Text

/-- The pieces of a text between occurrences of a character. -/
def splitAtChar (mark : Char) : List Char → List (List Char)
  | [] => [[]]
  | c :: rest =>
    if c = mark then [] :: splitAtChar mark rest
    else
      match splitAtChar mark rest with
      | [] => [[c]]
      | piece :: more => (c :: piece) :: more

/-- A decimal number up to 255 without leading zeros. -/
def isOctet (cs : List Char) : Bool :=
  cs != [] && cs.all Char.isDigit && cs.length ≤ 3 && (cs == ['0'] || cs.head? != some '0') &&
    ofDigits (cs.map fun c => c.toNat - 48) ≤ 255

def isIPv4 (cs : List Char) : Bool :=
  let parts := splitAtChar '.' cs
  parts.length == 4 && parts.all isOctet

def isHextet (cs : List Char) : Bool :=
  cs != [] && cs.length ≤ 4 && cs.all fun c => (hexValue? c).isSome

/-- Groups of an address, an IPv4 address at the end counting as two; `none` if it is malformed. -/
def groups? (cs : List Char) : Option (List (List Char)) :=
  let parts := splitAtChar ':' cs
  match parts.getLast? with
  | some last =>
    if last.contains '.' then
      if isIPv4 last then some (parts.dropLast ++ [['0'], ['0']]) else none
    else some parts
  | none => some parts

/-- The inner empty groups, which stand for omitted ones. -/
def innerGaps (parts : List (List Char)) : List Nat :=
  (List.range parts.length).filter fun i =>
    0 < i && i + 1 < parts.length && parts[i]? == some []

def isIPv6Body (cs : List Char) : Bool :=
  if (splitAtChar ':' cs).length < 3 then false
  else
    match groups? cs with
    | none => false
    | some parts =>
      let headEmpty := parts.head? == some []
      let lastEmpty := parts.getLast? == some []
      let wellFormed := parts.all fun p => p == [] || isHextet p
      wellFormed && parts.length ≤ 9 &&
        match innerGaps parts with
        | [] => parts.length == 8 && !headEmpty && !lastEmpty
        | [gap] =>
          let before := if headEmpty then gap - 1 else gap
          let after := parts.length - gap - 1 - (if lastEmpty then 1 else 0)
          (!headEmpty || before == 0) && (!lastEmpty || after == 0) && before + after < 8
        | _ => false

/-- An address with an optional zone after a percent sign. -/
def isIPv6 (cs : List Char) : Bool :=
  let body := cs.takeWhile (· != '%')
  let zone := (cs.dropWhile (· != '%')).drop 1
  !cs.contains '/' && (!cs.contains '%' || (zone != [] && !zone.contains '%')) && isIPv6Body body

/-- `v`, hexadecimal digits, a dot and anything. -/
def isFutureAddress (cs : List Char) : Bool :=
  let rest := cs.drop 1
  let digits := rest.takeWhile fun c => (hexValue? c).isSome
  let tail := rest.drop digits.length
  digits != [] && tail.head? == some '.' && 1 < tail.length && !tail.contains '\n'

/-- What stands in brackets must be an address. -/
def checkBracketed (host : List Char) : Except Fault Unit :=
  if host.head? == some 'v' then
    if isFutureAddress host then .ok () else .error .badFutureAddress
  else if isIPv4 host then .error .bracketedIPv4
  else if isIPv6 host then .ok ()
  else .error (.badAddress (String.ofList host))

end Datapack.Uri
