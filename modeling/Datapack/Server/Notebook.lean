import Datapack.Server.Basic

/-! Notebooks. Their cells are documents like others. -/

namespace Datapack.Server

/-- The uri of the notebook a message is about. -/
def notebookUri (params : Json) : String :=
  textField ((params.field? "notebookDocument").getD .null) "uri"

/-- Opens a notebook with its cells. -/
def openNotebook (params : Json) (w : Workspace) : Except Fault Workspace :=
  let w := { w with notebooks := notebookUri params :: w.notebooks }
  (itemsField params "cellTextDocuments").foldlM putDocument w

/-- Closes a notebook and the cells that are named. -/
def closeNotebook (params : Json) (w : Workspace) : Except Fault Workspace :=
  let uri := notebookUri params
  let w := { w with notebooks := w.notebooks.filter (· != uri) }
  .ok ((itemsField params "cellTextDocuments").foldl dropDocument w)

/-- Cells come and go. -/
def changeStructure (structure_ : Json) (w : Workspace) : Except Fault Workspace := do
  let w ← (itemsField structure_ "didOpen").foldlM putDocument w
  return (itemsField structure_ "didClose").foldl dropDocument w

/-- The text of a cell changes. -/
def changeCell (w : Workspace) (content : Json) : Except Fault Workspace :=
  (itemsField content "changes").foldlM
    (updateDocument ((content.field? "document").getD .null)) w

/-- Changes an open notebook: which cells it has first, then their texts. -/
def changeNotebook (params : Json) (w : Workspace) : Except Fault Workspace :=
  let uri := notebookUri params
  if !w.notebooks.contains uri then .error (.unknownDocument uri)
  else
    match (params.field? "change").bind (given? · "cells") with
    | none => .ok w
    | some cells => do
      let w ← changeStructure ((given? cells "structure").getD .null) w
      (itemsField cells "textContent").foldlM changeCell w

end Datapack.Server
