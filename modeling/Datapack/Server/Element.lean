import Datapack.Server.Shape

/-! Shapes of what messages are made of: places, documents, edits, diagnostics and items. -/

namespace Datapack.Server.Shape

/-- An optional field. -/
def maybe (name : String) (shape : Shape) : String × Shape := (name, .optional shape)

/-- Optional truth values. -/
def flags (names : List String) : List (String × Shape) := names.map fun name => maybe name .flag

/-- Lines, columns and other counts. -/
def count : Shape := .integer (some (0, 2147483647))

/-- Version numbers and the like. -/
def number : Shape := .integer (some (-2147483648, 2147483647))

/-- The numbers from one to a last one. -/
def upTo (last : Nat) : Shape := .oneOf ((List.range last).map fun (i : Nat) => (i : Int) + 1)

def position : Shape := .record [("line", count), ("character", count)]

def range : Shape := .record [("start", position), ("end", position)]

def location : Shape := .record [("uri", .text), ("range", range)]

def documentId : Shape := .record [("uri", .text)]

def versionedId : Shape := .record [("version", number), ("uri", .text)]

def folder : Shape := .record [("uri", .text), ("name", .text)]

def openedDocument : Shape :=
  .record [("uri", .text), ("languageId", .scalar), ("version", number), ("text", .text)]

/-- A change of a document's text: with a range it is a partial one. -/
def contentChange : Shape :=
  .keyed "range" (.record [("range", range), ("text", .text), maybe "rangeLength" count])
    (.record [("text", .text)])

/-- Requests about a place in a document. -/
def place (more : List (String × Shape)) : Shape :=
  .record ([("textDocument", documentId), ("position", position)] ++ more)

def document (more : List (String × Shape)) : Shape :=
  .record ([("textDocument", documentId)] ++ more)

def command : Shape :=
  .record
    [("title", .text), ("command", .text), maybe "tooltip" .text, maybe "arguments" (.list .any)]

def textEdit : Shape := .record [("range", range), ("newText", .text)]

def insertReplaceEdit : Shape :=
  .record [("newText", .text), ("insert", range), ("replace", range)]

/-- An edit that may be noted for the user. -/
def annotatedEdit : Shape :=
  .keyed "annotationId"
    (.record [("annotationId", .text), ("range", range), ("newText", .text)])
    (.keyed "snippet"
      (.record [("range", range), ("snippet", .record [("value", .text)]),
        maybe "annotationId" .text])
      textEdit)

def documentEdit : Shape :=
  .record
    [("textDocument", .record [("uri", .text), maybe "version" number]),
     ("edits", .list annotatedEdit)]

/-- What is done to files. -/
def fileOperations : List (String × Shape) :=
  [("create", .record
      [("kind", .word ["create"]), ("uri", .text), maybe "annotationId" .text,
       maybe "options" (.record (flags ["overwrite", "ignoreIfExists"]))]),
   ("rename", .record
      [("kind", .word ["rename"]), ("oldUri", .text), ("newUri", .text), maybe "annotationId" .text,
       maybe "options" (.record (flags ["overwrite", "ignoreIfExists"]))]),
   ("delete", .record
      [("kind", .word ["delete"]), ("uri", .text), maybe "annotationId" .text,
       maybe "options" (.record (flags ["recursive", "ignoreIfNotExists"]))])]

def workspaceEdit : Shape :=
  .record
    [maybe "changes" (.mapping (.list textEdit)),
     maybe "documentChanges" (.list (.keyed "kind" (.kinds fileOperations) documentEdit)),
     maybe "changeAnnotations"
       (.mapping (.record [("label", .text), maybe "needsConfirmation" .flag,
         maybe "description" .text]))]

def diagnostic : Shape :=
  .record
    [("range", range), ("message", .text), maybe "severity" (upTo 4), maybe "code" .any,
     maybe "codeDescription" (.record [("href", .text)]), maybe "source" .text,
     maybe "tags" (.list (upTo 2)),
     maybe "relatedInformation" (.list (.record [("location", location), ("message", .text)])),
     maybe "data" .any]

/-- Text with or without markup. -/
def documentation : Shape :=
  .textOr (.record [("kind", .word ["plaintext", "markdown"]), ("value", .text)])

def symbolKind : Shape := upTo 26

def symbolTags : Shape := .list (upTo 1)

/-- An item of a hierarchy of calls or types. -/
def hierarchyItem : Shape :=
  .record
    [("name", .text), ("kind", symbolKind), ("uri", .text), ("range", range),
     ("selectionRange", range), maybe "tags" symbolTags, maybe "detail" .text, maybe "data" .any]

def completionItem : Shape :=
  .record
    [("label", .text),
     maybe "labelDetails" (.record [maybe "detail" .text, maybe "description" .text]),
     maybe "kind" (upTo 25), maybe "tags" (.list (upTo 1)), maybe "detail" .text,
     maybe "documentation" documentation, maybe "deprecated" .flag, maybe "preselect" .flag,
     maybe "sortText" .text, maybe "filterText" .text, maybe "insertText" .text,
     maybe "insertTextFormat" (upTo 2), maybe "insertTextMode" (upTo 2),
     maybe "textEdit" (.keyed "insert" insertReplaceEdit textEdit), maybe "textEditText" .text,
     maybe "additionalTextEdits" (.list textEdit), maybe "commitCharacters" (.list .text),
     maybe "command" command, maybe "data" .any]

def codeAction : Shape :=
  .record
    [("title", .text), maybe "kind" .scalar, maybe "diagnostics" (.list diagnostic),
     maybe "isPreferred" .flag, maybe "disabled" (.record [("reason", .text)]),
     maybe "edit" workspaceEdit, maybe "command" command, maybe "data" .any,
     maybe "tags" (.list (upTo 1))]

def codeLens : Shape := .record [("range", range), maybe "command" command, maybe "data" .any]

def documentLink : Shape :=
  .record [("range", range), maybe "target" .text, maybe "tooltip" .text, maybe "data" .any]

def inlayHint : Shape :=
  .record
    [("position", position),
     ("label", .textOr (.list (.record
       [("value", .text), maybe "tooltip" documentation, maybe "location" location,
        maybe "command" command]))),
     maybe "kind" (upTo 2), maybe "textEdits" (.list textEdit), maybe "tooltip" documentation,
     maybe "paddingLeft" .flag, maybe "paddingRight" .flag, maybe "data" .any]

def workspaceSymbol : Shape :=
  .record
    [("location", .keyed "range" location documentId), ("name", .text), ("kind", symbolKind),
     maybe "data" .any, maybe "tags" symbolTags, maybe "containerName" .text]

def formattingOptions : Shape :=
  .record
    ([("tabSize", count), ("insertSpaces", .flag)] ++
      flags ["trimTrailingWhitespace", "insertFinalNewline", "trimFinalNewlines"])

def notebookCell : Shape :=
  .record
    [("kind", upTo 2), ("document", .text), maybe "metadata" .any,
     maybe "executionSummary" (.record [("executionOrder", count), maybe "success" .flag])]

def notebook : Shape :=
  .record
    [("uri", .text), ("notebookType", .text), ("version", number), ("cells", .list notebookCell),
     maybe "metadata" .any]

/-- How the cells of a notebook change: which there are, what is known of them, and their texts. -/
def cellChanges : Shape :=
  .record
    [maybe "structure" (.record
       [("array", .record
          [("start", count), ("deleteCount", count), maybe "cells" (.list notebookCell)]),
        maybe "didOpen" (.list openedDocument), maybe "didClose" (.list documentId)]),
     maybe "data" (.list notebookCell),
     maybe "textContent" (.list (.record
       [("document", versionedId), ("changes", .list contentChange)]))]

end Datapack.Server.Shape
