import Datapack.Diagnostic.ErrorLine
import Datapack.Diagnostic.Position
import Datapack.Diagnostic.Store
import Datapack.Documents

/-! From compiler output to published diagnostics. An operation goes step by step, and what it did
before it fails stays done. -/

namespace Datapack.Diagnostic

open Text

structure Ledger where
  store : Store := []
  stream : Stream := []
deriving DecidableEq, Repr

/-- Decides whether a client takes a publication. -/
abbrev Publisher := Publication → Except Fault Unit

/-- A publisher that takes everything. -/
def Publisher.accepting : Publisher := fun _ => .ok ()

/-- A client of the editor protocol takes only coordinates that fit. -/
def Publisher.editor : Publisher := fun p => p.records.forM fun r => do
  let _ ← r.clientPosition

namespace Ledger

/-- Work on a ledger. Its run tells what is left of the ledger, what was published and logged
meanwhile, and the result. -/
structure Edit (α : Type) where
  run : Ledger → Ledger × List Effect × Except Fault α

namespace Edit

instance : Monad Edit where
  pure a := ⟨fun t => (t, [], .ok a)⟩
  bind work next := ⟨fun t =>
    match work.run t with
    | (t, done, .ok a) =>
      let (t, more, result) := (next a).run t
      (t, done ++ more, result)
    | (t, done, .error e) => (t, done, .error e)⟩

/-- What may fail, but neither reads nor changes the ledger. -/
instance : MonadLift (Except Fault) Edit where
  monadLift result := ⟨fun t => (t, [], result)⟩

/-- The ledger as it is. -/
def current : Edit Ledger := ⟨fun t => (t, [], .ok t)⟩

def emit (e : Effect) : Edit Unit := ⟨fun t => (t, [e], .ok ())⟩

def modifyStore (f : Store → Store) : Edit Unit :=
  ⟨fun t => ({ t with store := f t.store }, [], .ok ())⟩

def modifyStream (f : Stream → Stream) : Edit Unit :=
  ⟨fun t => ({ t with stream := f t.stream }, [], .ok ())⟩

/-- Publishes diagnostics. They are kept first, even if they are not taken. -/
def publish (publisher : Publisher) (p : Publication) : Edit Unit := do
  modifyStore (·.note p)
  publisher p
  emit (.publish p)

/-- Adds a record to the stream; all that is now streamed for its document. -/
def append (r : Record) : Edit (List Record) := do
  modifyStream (·.append r)
  return (← current).stream.get r.uri

end Edit

/-- The record of a finding. The text of the document is needed only for its end. -/
def recordOf (docs : Documents) (files : FileTree) (f : Finding) : Except Fault Record := do
  let uri ← Uri.ofPath f.file
  let text ← if f.line = endMark then docs.text files uri else .ok none
  let position := positionOf f.line f.column text
  return { uri, line := position.line, column := position.column, message := f.message }

/-- Starts a pass: forgets the stream, and clears every document that carried diagnostics and the
given ones. -/
def openPass (publisher : Publisher) (extra : List String) : Edit Unit := do
  Edit.modifyStream fun _ => []
  let t ← Edit.current
  (Ordered.distinct (Ordered.keys t.store ++ extra)).forM fun u => Edit.publish publisher ⟨u, []⟩

/-- Takes one line of compiler output. A malformed error line and other output are logged. -/
def takeLine (docs : Documents) (files : FileTree) (publisher : Publisher) (raw : String) :
    Edit (Option Record) :=
  match readErrorLine raw with
  | .error _ => do
    Edit.emit (.warning ("Discarding malformed compiler error line: " ++ quoted (trimEndText raw)))
    return none
  | .ok none => do
    let shown := trimText raw
    if !shown.isEmpty then Edit.emit (.info ("compiler: " ++ shown))
    return none
  | .ok (some finding) => do
    let record ← recordOf docs files finding
    let records ← Edit.append record
    Edit.publish publisher ⟨record.uri, records⟩
    return some record

/-- Forgets the stream. -/
def clearStream (t : Ledger) : Ledger := { t with stream := [] }

/-- The records of a report by uri, in the order in which the uris come. The names of files are seen
from the folder. -/
def groupReport (docs : Documents) (files : FileTree) (folder : Path) (errors : List Finding) :
    Edit (Ordered (List Record)) :=
  errors.foldlM (fun grouped f => do
    let record ← recordOf docs files { f with file := (folder.child f.file).toText }
    return Stream.append grouped record) []

/-- Applies the report of one compile of a folder; no report counts as an empty one. Documents in
the folder that are open or carried diagnostics, and are not reported, are cleared first. -/
def enterReport (docs : Documents) (files : FileTree) (publisher : Publisher) (folder : Path)
    (report : Option Report) : Edit (Ordered (List Record)) := do
  let grouped ← groupReport docs files folder ((report.map (·.errors)).getD [])
  let folderUri ← Uri.ofPath folder.toText
  let openUris ← docs.openUris
  let t ← Edit.current
  (Ordered.distinct (openUris ++ Ordered.keys t.store)).forM fun u =>
    if !(Ordered.keys grouped).contains u && Uri.isInside u folderUri then
      Edit.publish publisher ⟨u, []⟩
    else return
  grouped.forM fun (u, records) => do
    Edit.emit (.debug ("Publishing " ++ toString records.length ++ " diagnostic(s) to " ++ u))
    Edit.publish publisher ⟨u, records⟩
  return grouped

/-- Forgets a document that was closed. -/
def close (publisher : Publisher) (uri : String) : Edit Unit := do
  Edit.modifyStream (Ordered.remove uri)
  Edit.publish publisher ⟨uri, []⟩

end Ledger

end Datapack.Diagnostic
