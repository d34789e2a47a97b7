import Datapack.Server.Element

/-! What clients tell about themselves when they say hello. -/

namespace Datapack.Server.Shape

/-- An optional record of optional truth values. -/
def switches (name : String) (names : List String) : String × Shape :=
  maybe name (.record (flags names))

/-- A capability that can only be registered later, or not. -/
def dynamic (name : String) : String × Shape := switches name ["dynamicRegistration"]

/-- A capability of jumping somewhere. -/
def jump (name : String) : String × Shape :=
  switches name ["dynamicRegistration", "linkSupport"]

def refresh (name : String) : String × Shape := switches name ["refreshSupport"]

/-- The values that a client knows, which it must list. -/
def valueSet (value : Shape) : Shape := .record [("valueSet", .list value)]

/-- The values that a client knows, if it lists them. -/
def maybeValueSet (value : Shape) : Shape := .record [maybe "valueSet" (.list value)]

/-- The properties that a client can ask for later. -/
def resolveSupport : String × Shape :=
  maybe "resolveSupport" (.record [("properties", .list .text)])

def dynamicFlag : String × Shape := maybe "dynamicRegistration" .flag

def markupKinds : Shape := .list (.word ["plaintext", "markdown"])

def workspaceEditing : Shape :=
  .record
    (flags ["documentChanges", "normalizesLineEndings", "metadataSupport", "snippetEditSupport"] ++
      [maybe "resourceOperations" (.list (.word ["create", "rename", "delete"])),
       maybe "failureHandling" (.word ["abort", "transactional", "textOnlyTransactional", "undo"]),
       switches "changeAnnotationSupport" ["groupsOnLabel"]])

def workspaceCapabilities : Shape :=
  .record
    (flags ["applyEdit", "workspaceFolders", "configuration"] ++
      [maybe "workspaceEdit" workspaceEditing, dynamic "didChangeConfiguration",
       switches "didChangeWatchedFiles" ["dynamicRegistration", "relativePatternSupport"],
       maybe "symbol" (.record
         [dynamicFlag, maybe "symbolKind" (maybeValueSet symbolKind),
          maybe "tagSupport" (valueSet (upTo 1)), resolveSupport]),
       dynamic "executeCommand", refresh "semanticTokens", refresh "codeLens",
       switches "fileOperations"
         ["dynamicRegistration", "didCreate", "willCreate", "didRename", "willRename", "didDelete",
          "willDelete"],
       refresh "inlineValue", refresh "inlayHint", refresh "diagnostics", refresh "foldingRange",
       dynamic "textDocumentContent"])

def completionCapabilities : Shape :=
  .record
    [dynamicFlag,
     maybe "completionItem" (.record
       (flags ["snippetSupport", "commitCharactersSupport", "deprecatedSupport",
          "preselectSupport", "insertReplaceSupport", "labelDetailsSupport"] ++
        [maybe "documentationFormat" markupKinds, maybe "tagSupport" (valueSet (upTo 1)),
         resolveSupport, maybe "insertTextModeSupport" (valueSet (upTo 2))])),
     maybe "completionItemKind" (maybeValueSet (upTo 25)), maybe "insertTextMode" (upTo 2),
     maybe "contextSupport" .flag,
     maybe "completionList" (.record
       [maybe "itemDefaults" (.list .text), maybe "applyKindSupport" .flag])]

def signatureCapabilities : Shape :=
  .record
    [dynamicFlag,
     maybe "signatureInformation" (.record
       [maybe "documentationFormat" markupKinds,
        switches "parameterInformation" ["labelOffsetSupport"],
        maybe "activeParameterSupport" .flag, maybe "noActiveParameterSupport" .flag]),
     maybe "contextSupport" .flag]

def codeActionCapabilities : Shape :=
  .record
    (flags ["dynamicRegistration", "isPreferredSupport", "disabledSupport", "dataSupport",
       "honorsChangeAnnotations", "documentationSupport"] ++
      [maybe "codeActionLiteralSupport" (.record [("codeActionKind", valueSet .scalar)]),
       resolveSupport, maybe "tagSupport" (valueSet (upTo 1))])

def semanticTokenCapabilities : Shape :=
  .record
    ([("requests", .record
        [maybe "range" (.flagOr (.record [])),
         maybe "full" (.flagOr (.record [maybe "delta" .flag]))]),
      ("tokenTypes", .list .text), ("tokenModifiers", .list .text),
      ("formats", .list (.word ["relative"]))] ++
      flags ["dynamicRegistration", "overlappingTokenSupport", "multilineTokenSupport",
        "serverCancelSupport", "augmentsSyntaxTokens"])

/-- What goes with diagnostics that are sent or asked for. -/
def diagnosticCapabilities (more : List String) : Shape :=
  .record
    (flags (["relatedInformation", "codeDescriptionSupport", "dataSupport"] ++ more) ++
      [maybe "tagSupport" (valueSet (upTo 2))])

def documentCapabilities : Shape :=
  .record
    [switches "synchronization" ["dynamicRegistration", "willSave", "willSaveWaitUntil", "didSave"],
     switches "filters" ["relativePatternSupport"],
     maybe "completion" completionCapabilities,
     maybe "hover" (.record [dynamicFlag, maybe "contentFormat" markupKinds]),
     maybe "signatureHelp" signatureCapabilities,
     jump "declaration", jump "definition", jump "typeDefinition", jump "implementation",
     dynamic "references", dynamic "documentHighlight",
     maybe "documentSymbol" (.record
       (flags ["dynamicRegistration", "hierarchicalDocumentSymbolSupport", "labelSupport"] ++
        [maybe "symbolKind" (maybeValueSet symbolKind), maybe "tagSupport" (valueSet (upTo 1))])),
     maybe "codeAction" codeActionCapabilities,
     maybe "codeLens" (.record [dynamicFlag, resolveSupport]),
     switches "documentLink" ["dynamicRegistration", "tooltipSupport"],
     dynamic "colorProvider", dynamic "formatting",
     switches "rangeFormatting" ["dynamicRegistration", "rangesSupport"],
     dynamic "onTypeFormatting",
     maybe "rename" (.record
       (flags ["dynamicRegistration", "prepareSupport", "honorsChangeAnnotations"] ++
        [maybe "prepareSupportDefaultBehavior" (upTo 1)])),
     maybe "foldingRange" (.record
       [dynamicFlag, maybe "rangeLimit" count, maybe "lineFoldingOnly" .flag,
        maybe "foldingRangeKind" (maybeValueSet .scalar),
        switches "foldingRange" ["collapsedText"]]),
     dynamic "selectionRange",
     maybe "publishDiagnostics" (diagnosticCapabilities ["versionSupport"]),
     dynamic "callHierarchy", maybe "semanticTokens" semanticTokenCapabilities,
     dynamic "linkedEditingRange", dynamic "moniker", dynamic "typeHierarchy", dynamic "inlineValue",
     maybe "inlayHint" (.record [dynamicFlag, resolveSupport]),
     maybe "diagnostic"
       (diagnosticCapabilities ["dynamicRegistration", "relatedDocumentSupport"]),
     dynamic "inlineCompletion"]

def notebookCapabilities : Shape :=
  .record [("synchronization",
    .record (flags ["dynamicRegistration", "executionSummarySupport"]))]

def windowCapabilities : Shape :=
  .record
    [maybe "workDoneProgress" .flag,
     maybe "showMessage" (.record [switches "messageActionItem" ["additionalPropertiesSupport"]]),
     maybe "showDocument" (.record [("support", .flag)])]

def generalCapabilities : Shape :=
  .record
    [maybe "staleRequestSupport"
       (.record [("cancel", .flag), ("retryOnContentModified", .list .text)]),
     maybe "regularExpressions" (.record [("engine", .text), maybe "version" .text]),
     maybe "markdown" (.record
       [("parser", .text), maybe "version" .text, maybe "allowedTags" (.list .text)]),
     maybe "positionEncodings" (.list .scalar)]

def clientCapabilities : Shape :=
  .record
    [maybe "workspace" workspaceCapabilities, maybe "textDocument" documentCapabilities,
     maybe "notebookDocument" notebookCapabilities, maybe "window" windowCapabilities,
     maybe "general" generalCapabilities, maybe "experimental" .any]

end Datapack.Server.Shape
