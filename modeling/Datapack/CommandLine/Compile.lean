import Datapack.CommandLine.Report
import Datapack.Simulation.World

/-! Compiling folders outside of an editor: all folders are compiled first, then their reports are
applied. -/

namespace Datapack.CommandLine

open Diagnostic Machine Simulation

/-- Applies the reports of folders in order, up to the first that fails. -/
def enterReports (docs : Documents) (w : World) (t : Ledger) :
    List (Path × Option Report) → World × Ledger × Except Fault Unit
  | [] => (w, t, .ok ())
  | (folder, report) :: rest =>
    let (t, effects, result) :=
      (Ledger.enterReport docs w.machine.files .accepting folder report).run t
    let w := { w with machine := w.machine.emitAll effects }
    match result with
    | .error e => (w, t, .error e)
    | .ok _ => enterReports docs w t rest

/-- Compiles each folder in turn; the ledger then holds the diagnostics that stand. -/
def compileAll (settings : Settings) (docs : Documents) (folders : List Path) (w : World)
    (t : Ledger) : World × Ledger × Except Fault Unit :=
  let runner := w.machine.runners.length
  let machine := { w.machine with runners := w.machine.runners ++ [(⟨settings, {}⟩ : Runner)] }
  match { w with machine }.request (.runAll runner folders) with
  | (w, .error e) => (w, t, .error e)
  | (w, .ok (.reports reports)) => enterReports docs w t reports
  | (w, .ok _) => (w, t, .ok ())

end Datapack.CommandLine
