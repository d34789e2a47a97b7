import Datapack.Json.Reader
import Datapack.Json.Writer
import Datapack.Server.Receive
import Datapack.Text.Utf8

/-! Messages on a stream: a header with the length of the body in bytes, an empty line, and the
body. -/

namespace Datapack.Server

open Text

/-- Limits for messages. -/
def messageLimits : Json.Limits := ⟨1000, 4300⟩

/-- The version of the message format. -/
def formatVersion : String × Json := ("jsonrpc", .str "2.0")

/-- A message as it is written. -/
def Outgoing.frame (m : Outgoing) : String :=
  let body :=
    match m.toJson with
    | .obj fields => Json.write (.obj (formatVersion :: fields))
    | j => Json.write j
  "Content-Length: " ++ toString (encodeUtf8 body).length ++ "\r\n\r\n" ++ body

/-- The length that a header line announces. -/
def announcedLength? (line : String) : Option Nat :=
  let cs := line.toList
  let name := String.ofList ((cs.takeWhile (· != ':')).map Char.toLower)
  if name = "content-length" then
    match parseInteger ((cs.dropWhile (· != ':')).drop 1) with
    | .ok n => some n.toNat
    | .error _ => none
  else none

/-- The message in a JSON value. -/
def Incoming.ofJson? (j : Json) : Option Incoming := do
  let method ← (j.field? "method").bind Json.str?
  return ⟨method, j.field? "id", j.field? "params"⟩

/-- The message in the bytes of a body. -/
def Incoming.decode? (body : Bytes) : Option Incoming := do
  let cs ← decodeStrict? body
  let j ← Json.parse? messageLimits cs
  Incoming.ofJson? j

end Datapack.Server
