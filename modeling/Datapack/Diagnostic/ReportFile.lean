import Datapack.Diagnostic.Record
import Datapack.Json.Reader
import Datapack.Text.Utf8

/-! Reports as the bytes of a file. -/

namespace Datapack.Diagnostic

/-- Decodes a report. Text that is no JSON is one complaint about the whole. -/
def Report.decode (bytes : Text.Bytes) : Checked Report :=
  match (Text.decodeStrict? bytes).bind (Json.parse? .report) with
  | some j => Report.check true j
  | none => Checked.fail .notJson

end Datapack.Diagnostic
