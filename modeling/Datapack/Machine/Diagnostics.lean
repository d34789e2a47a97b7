import Datapack.Machine.State

/-! The diagnostics of sessions inside the machine. -/

namespace Datapack.Machine.State

open Diagnostic

/-- Has work done on the diagnostics of a session, if there is one of this generation, and tells
whether it failed. -/
def edit {α : Type} (s : State) (generation : Nat) (work : Session → Ledger.Edit α) :
    State × Except Fault Unit :=
  match s.sessionOf? generation with
  | none => (s, .ok ())
  | some session =>
    let (ledger, effects, result) := (work session).run session.ledger
    ((s.modifySessionOf generation fun q => { q with ledger }).emitAll effects,
      result.map fun _ => ())

/-- Forgets the streamed diagnostics of a session. -/
def clearStreamOf (s : State) (generation : Nat) : State :=
  s.modifySessionOf generation fun session => { session with ledger := session.ledger.clearStream }

/-- Forgets the streamed diagnostics. -/
def clearStream (s : State) : State :=
  s.modifySession fun session => { session with ledger := session.ledger.clearStream }

/-- Takes a line of compiler output. -/
def takeLine (s : State) (generation : Nat) (line : String) : State × Except Fault Unit :=
  s.edit generation fun q => Ledger.takeLine q.documents s.files q.publisher line

/-- Starts a pass that also clears the given documents. -/
def openPass (s : State) (extra : List String) : State × Except Fault Unit :=
  s.edit s.generation fun q => Ledger.openPass q.publisher extra

/-- Applies the report of a folder. -/
def enterReport (s : State) (folder : Path) (report : Option Report) : State × Except Fault Unit :=
  s.edit s.generation fun q => Ledger.enterReport q.documents s.files q.publisher folder report

/-- Forgets a closed document. -/
def closeDocument (s : State) (uri : String) : State × Except Fault Unit :=
  s.edit s.generation fun q => Ledger.close q.publisher uri

end Datapack.Machine.State
