import Datapack.Effect
import Datapack.Ordered

/-! The diagnostics that stand, and those streamed so far. -/

namespace Datapack.Diagnostic

/-- The diagnostics last published, by uri; documents without any are not in it. -/
abbrev Store := Ordered (List Record)

namespace Store

def get (s : Store) (uri : String) : List Record := (s.lookup uri).getD []

/-- Keeps what was published. -/
def note (s : Store) (p : Publication) : Store :=
  if p.records = [] then Ordered.remove p.uri s else Ordered.put p.uri p.records s

end Store

/-- The diagnostics streamed in the current pass, by uri. -/
abbrev Stream := Ordered (List Record)

namespace Stream

def get (s : Stream) (uri : String) : List Record := (s.lookup uri).getD []

/-- Adds a record to those of its document. -/
def append (s : Stream) (r : Record) : Stream := Ordered.put r.uri (s.get r.uri ++ [r]) s

end Stream

end Datapack.Diagnostic
