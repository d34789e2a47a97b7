import Datapack.Server.Capability

/-! The messages of the editor protocol and the shapes of their parameters. -/

namespace Datapack.Server

/-- Whether a message waits for an answer. -/
inductive MessageKind where
  | request
  | notification
deriving DecidableEq, Repr

/-- A kind of message. -/
structure Method where
  name : String
  kind : MessageKind
  params : Shape

open Shape

/-- Parameters that may be missing, whatever they are. -/
def noParams : Shape := .optional .any

def traceValue : Shape := .word ["off", "messages", "verbose"]

def completionContext : Shape :=
  .record [("triggerKind", upTo 3), maybe "triggerCharacter" .text]

def parameterHint : Shape :=
  .textOr (.list number)

/-- Signatures that a client shows already. -/
def shownSignatures : Shape :=
  .record
    [("signatures", .list (.record
       [("label", .text), maybe "documentation" documentation,
        maybe "parameters" (.list (.record
          [("label", parameterHint), maybe "documentation" documentation])),
        maybe "activeParameter" count])),
     maybe "activeSignature" count, maybe "activeParameter" count]

def signatureContext : Shape :=
  .record
    [("triggerKind", upTo 3), ("isRetrigger", .flag), maybe "triggerCharacter" .text,
     maybe "activeSignatureHelp" shownSignatures]

def initializeParams : Shape :=
  .record
    [("capabilities", clientCapabilities), maybe "processId" (.integer none),
     maybe "rootUri" .text, maybe "rootPath" .text, maybe "workspaceFolders" (.list folder),
     maybe "clientInfo" (.record [("name", .text), maybe "version" .text]), maybe "locale" .text,
     maybe "trace" traceValue]

def shownMessage : List (String × Shape) := [("type", upTo 5), ("message", .text)]

/-- Files that come or go. -/
def files : Shape := .record [("files", .list documentId)]

def renamedFiles : Shape :=
  .record [("files", .list (.record [("oldUri", .text), ("newUri", .text)]))]

def token : Shape := .record [("token", .any)]

def onItem : Shape := .record [("item", hierarchyItem)]

/-- Requests. -/
def requests : List (String × Shape) :=
  [("initialize", initializeParams),
   ("shutdown", noParams),
   ("textDocument/completion", place [maybe "context" completionContext]),
   ("textDocument/signatureHelp", place [maybe "context" signatureContext]),
   ("textDocument/hover", place []),
   ("textDocument/definition", place []),
   ("textDocument/declaration", place []),
   ("textDocument/typeDefinition", place []),
   ("textDocument/implementation", place []),
   ("textDocument/documentHighlight", place []),
   ("textDocument/linkedEditingRange", place []),
   ("textDocument/moniker", place []),
   ("textDocument/prepareCallHierarchy", place []),
   ("textDocument/prepareTypeHierarchy", place []),
   ("textDocument/prepareRename", place []),
   ("textDocument/rename", place [("newName", .text)]),
   ("textDocument/references", place [("context", .record [("includeDeclaration", .flag)])]),
   ("textDocument/inlineCompletion",
     place [("context", .record
       [("triggerKind", upTo 2),
        maybe "selectedCompletionInfo" (.record [("range", range), ("text", .text)])])]),
   ("textDocument/onTypeFormatting", place [("ch", .text), ("options", formattingOptions)]),
   ("textDocument/documentSymbol", document []),
   ("textDocument/documentLink", document []),
   ("textDocument/documentColor", document []),
   ("textDocument/codeLens", document []),
   ("textDocument/foldingRange", document []),
   ("textDocument/semanticTokens/full", document []),
   ("textDocument/semanticTokens/full/delta", document [("previousResultId", .text)]),
   ("textDocument/semanticTokens/range", document [("range", range)]),
   ("textDocument/inlayHint", document [("range", range)]),
   ("textDocument/inlineValue",
     document [("range", range),
       ("context", .record [("frameId", number), ("stoppedLocation", range)])]),
   ("textDocument/selectionRange", document [("positions", .list position)]),
   ("textDocument/diagnostic",
     document [maybe "identifier" .text, maybe "previousResultId" .text]),
   ("textDocument/colorPresentation",
     document [("color", .record [("red", .real), ("green", .real), ("blue", .real),
       ("alpha", .real)]), ("range", range)]),
   ("textDocument/codeAction",
     document [("range", range),
       ("context", .record [("diagnostics", .list diagnostic), maybe "only" (.list .scalar),
         maybe "triggerKind" (upTo 2)])]),
   ("textDocument/formatting", document [("options", formattingOptions)]),
   ("textDocument/rangeFormatting", document [("range", range), ("options", formattingOptions)]),
   ("textDocument/rangesFormatting",
     document [("ranges", .list range), ("options", formattingOptions)]),
   ("textDocument/willSaveWaitUntil", document [("reason", upTo 3)]),
   ("callHierarchy/incomingCalls", onItem),
   ("callHierarchy/outgoingCalls", onItem),
   ("typeHierarchy/supertypes", onItem),
   ("typeHierarchy/subtypes", onItem),
   ("completionItem/resolve", completionItem),
   ("codeAction/resolve", codeAction),
   ("codeLens/resolve", codeLens),
   ("documentLink/resolve", documentLink),
   ("inlayHint/resolve", inlayHint),
   ("workspaceSymbol/resolve", workspaceSymbol),
   ("workspace/symbol", .record [("query", .text)]),
   ("workspace/executeCommand", .record [("command", .text), maybe "arguments" (.list .any)]),
   ("workspace/willCreateFiles", files),
   ("workspace/willRenameFiles", renamedFiles),
   ("workspace/willDeleteFiles", files),
   ("workspace/diagnostic",
     .record [("previousResultIds", .list (.record [("uri", .text), ("value", .text)])),
       maybe "identifier" .text]),
   ("workspace/textDocumentContent", documentId),
   ("workspace/textDocumentContent/refresh", documentId),
   ("workspace/workspaceFolders", noParams),
   ("workspace/configuration",
     .record [("items", .list (.record [maybe "scopeUri" .text, maybe "section" .text]))]),
   ("workspace/applyEdit",
     .record [("edit", workspaceEdit), maybe "label" .text,
       maybe "metadata" (.record [maybe "isRefactoring" .flag])]),
   ("workspace/foldingRange/refresh", noParams),
   ("workspace/semanticTokens/refresh", noParams),
   ("workspace/inlineValue/refresh", noParams),
   ("workspace/inlayHint/refresh", noParams),
   ("workspace/diagnostic/refresh", noParams),
   ("workspace/codeLens/refresh", noParams),
   ("client/registerCapability",
     .record [("registrations", .list (.record
       [("id", .text), ("method", .text), maybe "registerOptions" .any]))]),
   ("client/unregisterCapability",
     .record [("unregisterations", .list (.record [("id", .text), ("method", .text)]))]),
   ("window/showMessageRequest",
     .record (shownMessage ++ [maybe "actions" (.list (.record [("title", .text)]))])),
   ("window/showDocument",
     .record [("uri", .text), maybe "external" .flag, maybe "takeFocus" .flag,
       maybe "selection" range]),
   ("window/workDoneProgress/create", token)]

/-- Notifications. -/
def notifications : List (String × Shape) :=
  [("initialized", .record []),
   ("exit", noParams),
   ("textDocument/didOpen", .record [("textDocument", openedDocument)]),
   ("textDocument/didChange",
     .record [("textDocument", versionedId), ("contentChanges", .list contentChange)]),
   ("textDocument/didSave", document [maybe "text" .text]),
   ("textDocument/didClose", document []),
   ("textDocument/willSave", document [("reason", upTo 3)]),
   ("textDocument/publishDiagnostics",
     .record [("uri", .text), ("diagnostics", .list diagnostic), maybe "version" number]),
   ("notebookDocument/didOpen",
     .record [("notebookDocument", notebook), ("cellTextDocuments", .list openedDocument)]),
   ("notebookDocument/didChange",
     .record [("notebookDocument", versionedId),
       ("change", .record [maybe "metadata" .any, maybe "cells" cellChanges])]),
   ("notebookDocument/didSave", .record [("notebookDocument", documentId)]),
   ("notebookDocument/didClose",
     .record [("notebookDocument", documentId), ("cellTextDocuments", .list documentId)]),
   ("workspace/didChangeConfiguration", .record [maybe "settings" .any]),
   ("workspace/didChangeWorkspaceFolders",
     .record [("event", .record [("added", .list folder), ("removed", .list folder)])]),
   ("workspace/didChangeWatchedFiles",
     .record [("changes", .list (.record [("uri", .text), ("type", upTo 3)]))]),
   ("workspace/didCreateFiles", files),
   ("workspace/didRenameFiles", renamedFiles),
   ("workspace/didDeleteFiles", files),
   ("window/showMessage", .record shownMessage),
   ("window/logMessage", .record shownMessage),
   ("window/workDoneProgress/cancel", token),
   ("telemetry/event", .any),
   ("$/cancelRequest", .record [("id", .any)]),
   ("$/progress", .record [("token", .any), ("value", .any)]),
   ("$/setTrace", .record [("value", traceValue)]),
   ("$/logTrace", .record [("message", .text), maybe "verbose" .text])]

/-- The messages of the protocol. -/
def knownMethods : List Method :=
  (requests.map fun (name, params) => ⟨name, .request, params⟩) ++
    notifications.map fun (name, params) => ⟨name, .notification, params⟩

def method? (name : String) : Option Method := knownMethods.find? (·.name == name)

end Datapack.Server
