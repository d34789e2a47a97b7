import Datapack.Diagnostic.Record
import Datapack.Log

/-! What the outside sees of a run, in the order in which it happens. -/

namespace Datapack

/-- The diagnostics of a document, as a client is told about them. -/
structure Publication where
  uri : String
  records : List Diagnostic.Record
deriving DecidableEq, Repr

/-- The launch of a process. -/
structure Launch where
  argv : List String
  directory : Option Path
  /-- The longest line its output is read by, in bytes. -/
  limit : Nat
deriving DecidableEq, Repr

inductive Signal where
  | terminate
  | kill
deriving DecidableEq, Repr

/-- Messages to the client that carry nothing. -/
inductive Notice where
  | reloadServer
deriving DecidableEq, Repr

inductive Effect where
  | log (entry : LogEntry)
  | publish (publication : Publication)
  | notify (notice : Notice)
  | launch (launch : Launch)
  /-- A text written to the input of a process. -/
  | write (process : Nat) (text : String)
  | signal (process : Nat) (signal : Signal)
  /-- A line of output handed over. -/
  | line (text : String)
  /-- An exit handed over. -/
  | exit (code : Int)
deriving DecidableEq, Repr

namespace Effect

def debug (text : String) : Effect := .log ⟨.debug, text, none⟩

def info (text : String) : Effect := .log ⟨.info, text, none⟩

def warning (text : String) : Effect := .log ⟨.warning, text, none⟩

def error (text : String) : Effect := .log ⟨.error, text, none⟩

/-- An error entry that tells about a failure. -/
def failure (text : String) (cause : Fault) : Effect := .log ⟨.error, text, some cause⟩

end Effect

end Datapack
