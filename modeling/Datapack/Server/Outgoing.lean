import Datapack.Effect
import Datapack.Json.Value
import Datapack.Selector.Completion
import Datapack.Selector.Signature

/-! Messages to the client. -/

namespace Datapack.Server

open Diagnostic Selector

inductive Outgoing where
  | publish (publication : Publication)
  | reloadServer
  /-- An error the user is shown. -/
  | showError (text : String)
  | result (id : Json) (value : Json)
  | refusal (id : Json) (code : Int) (text : String)

/-- Objects without the fields that are not there. -/
def compact (fields : List (String × Option Json)) : Json :=
  .obj (fields.filterMap fun (key, value) => value.map fun v => (key, v))

def positionJson (line column : Int) : Json := .obj [("line", .int line), ("character", .int column)]

/-- A diagnostic covers no character: it starts and ends at the same position. -/
def diagnosticJson (r : Record) : Json :=
  let at_ := positionJson r.line r.column
  .obj [("range", .obj [("start", at_), ("end", at_)]), ("message", .str r.message),
    ("severity", .int r.severity.rank), ("source", .str r.source)]

def Outgoing.toJson : Outgoing → Json
  | publish p =>
    .obj [("method", .str "textDocument/publishDiagnostics"),
      ("params", .obj [("uri", .str p.uri), ("diagnostics", .arr (p.records.map diagnosticJson))])]
  | reloadServer => .obj [("method", .str "reload_server"), ("params", .null)]
  | showError text =>
    .obj [("method", .str "window/showMessage"),
      ("params", .obj [("type", .int 1), ("message", .str text)])]
  | result id value => .obj [("id", id), ("result", value)]
  | refusal id code text =>
    .obj [("id", id), ("error", .obj [("code", .int code), ("message", .str text)])]

/-- The number of a kind of completion item. -/
def itemKind : Context → Int
  | .target _ => 7
  | .param _ => 10
  | .member _ => 2

def itemJson (kind : Int) (e : Entry) : Json :=
  compact
    [("label", some (.str e.label)), ("kind", some (.int kind)), ("detail", e.detail.map .str),
     ("documentation", e.documentation.map .str), ("insertText", e.insertText.map .str),
     ("insertTextFormat", if e.isSnippet then some (.int 2) else none)]

/-- The completion items of a context, and nothing outside of one. -/
def completionJson : Option Context → Json
  | none => .null
  | some context =>
    .obj [("isIncomplete", .bool false),
      ("items", .arr ((entriesOf (some context)).map (itemJson (itemKind context))))]

def signatureJson (s : Signature) : Json :=
  .obj [("label", .str s.label),
    ("documentation", .obj [("kind", .str "markdown"), ("value", .str s.documentation)]),
    ("parameters", .arr (s.params.map fun p =>
      .obj [("label", .str p.name), ("documentation", .str p.doc)])),
    ("activeParameter", .null)]

/-- Help on signatures, and nothing outside of a call. -/
def signaturesJson : Option (List Signature) → Json
  | none => .null
  | some [] => .obj [("signatures", .arr []), ("activeParameter", .null)]
  | some (s :: rest) =>
    .obj [("signatures", .arr ((s :: rest).map signatureJson)), ("activeSignature", .int 0),
      ("activeParameter", .int s.active)]

/-- What the client is told of an effect. -/
def Outgoing.ofEffect? : Effect → Option Outgoing
  | .publish p => some (.publish p)
  | .notify .reloadServer => some .reloadServer
  | _ => none

end Datapack.Server
