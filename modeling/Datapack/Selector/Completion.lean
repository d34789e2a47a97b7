import Datapack.Selector.Catalogue
import Datapack.Selector.Context

/-! Completion entries for a context. -/

namespace Datapack.Selector

structure Entry where
  label : String
  documentation : Option String := none
  detail : Option String := none
  insertText : Option String := none
  isSnippet : Bool := false
deriving DecidableEq, Repr

/-- The plural of an entity: blanks for underscores and an `s`, unless it is overridden. -/
def pluralOf (entity : String) : String :=
  let plural := entity.map (fun c => if c = '_' then ' ' else c) ++ "s"
  (pluralOverrides.lookup plural).getD plural

def Entry.ofEntity (entity : String) : Entry :=
  { label := entity
    documentation := some ("Targets all " ++ pluralOf entity ++ ". (Translates to @e[type=" ++
      entity ++ "])") }

def Entry.ofAlias (a : Alias) : Entry :=
  { label := a.name
    documentation := some a.doc
    detail := some ("Aliases: " ++ String.intercalate ", " a.longNames) }

def Entry.ofParam (p : Described) : Entry :=
  { label := p.name, documentation := some p.doc }

/-- Inserts the snippet if the member has one, else its plain text, else its name. -/
def Entry.ofMember (m : Member) : Entry :=
  { label := m.name
    documentation := some m.doc
    detail := m.usage
    insertText := some (m.snippet.getD (m.plainText.getD m.name))
    isSnippet := m.snippet.isSome }

/-- The entries of a context. -/
def entriesOf : Option Context → List Entry
  | none => []
  | some (.target _) => entities.map .ofEntity ++ aliases.map .ofAlias
  | some (.param _) => params.map .ofParam
  | some (.member _) => members.map .ofMember

/-- The completion entries at a cursor. -/
def entriesAt (line : List Char) (cursor : Int) (trigger : Option String) : List Entry :=
  entriesOf (contextAt line cursor trigger)

end Datapack.Selector
