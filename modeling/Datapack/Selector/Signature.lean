import Datapack.Selector.Call
import Datapack.Selector.Catalogue

/-! Signature help for the member call around a cursor. -/

namespace Datapack.Selector

structure Signature where
  label : String
  documentation : String
  params : List Described
  active : Nat
deriving DecidableEq, Repr

/-- The documentation of a member, with a line for each parameter. -/
def Member.callDocumentation (m : Member) : String :=
  String.intercalate "\n"
    ([m.doc, "", "Parameters:"] ++ m.params.map fun p => "- `" ++ p.name ++ "`: " ++ p.doc)

/-- The name directly before an offset. -/
def nameBefore (line : List Char) (o : Nat) : String :=
  String.ofList ((line.take o).drop (o - wordBefore line o))

/-- The active parameter: one per comma, and the last one for all further commas. -/
def activeParameter (count commas : Nat) : Nat := min commas (count - 1)

def Signature.ofMember? (m : Member) (commas : Nat) : Option Signature :=
  m.usage.map fun usage =>
    { label := usage
      documentation := m.callDocumentation
      params := m.params
      active := activeParameter m.params.length commas }

/-- The signatures at a cursor: `none` outside of calls, and no signature for a call of a name
that is unknown or has no usage. -/
def signaturesAt (line : List Char) (cursor : Int) : Option (List Signature) :=
  (callAt? line cursor).map fun call =>
    match findMember? (nameBefore line call.paren) with
    | none => []
    | some m => (Signature.ofMember? m call.commas).toList

end Datapack.Selector
