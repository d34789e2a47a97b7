import Datapack.Diagnostic.Store
import Datapack.Uri.Basic

/-! What is printed about diagnostics. -/

namespace Datapack.CommandLine

open Diagnostic

/-- What a terminal is given: a line with markup, or a table. -/
inductive Printed where
  | line (text : String)
  | table (headers : List String) (rows : List (List String))
deriving DecidableEq, Repr

/-- What a terminal shows of a text that it is given. It may read markup in it, and fail at that. -/
abbrev Terminal := String → Except Fault String

/-- A terminal that shows every text as it is. -/
def Terminal.plain : Terminal := .ok

/-- What a terminal shows: the texts of a line or of a row together. -/
def Printed.shown (terminal : Terminal) : Printed → Except Fault (List (List String))
  | line text => return [[← terminal text]]
  | table headers rows => (headers :: rows).mapM (·.mapM terminal)

/-- The path of a file uri, and any other uri as it is. -/
def shownPath (uri : String) : Except Fault String := do
  match ← Uri.toPath uri with
  | some path => return if path.isEmpty then uri else path
  | none => return uri

/-- The row of a diagnostic: its line is shown counted from one. -/
def reportRow (r : Record) : Except Fault (List String) := do
  return [← shownPath r.uri, toString (r.line + 1), toString r.column, r.message]

/-- The diagnostics of all documents, the documents in the order of their uris. -/
def allRecords (store : Store) : List Record :=
  (store.mergeSort fun a b => !(b.1 < a.1)).flatMap (·.2)

/-- A table of the diagnostics and their number, or the good news. -/
def reportLines (records : List Record) : Except Fault (List Printed) := do
  if records.isEmpty then return [.line "[green]No errors.[/green]"]
  else
    let rows ← records.mapM reportRow
    return [.table ["file", "line", "column", "message"] rows,
      .line ("[red]" ++ toString records.length ++ " error(s)[/red]")]

end Datapack.CommandLine
