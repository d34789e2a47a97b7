import Datapack.Simulation.World
import Mathlib.Logic.Relation

/-! Whatever happens in a world, its machine only takes steps: processes and schedule do nothing to
it but to let events happen. -/

namespace Datapack.Simulation

open Machine

/-- A machine takes a step, or the documents of its session change. -/
inductive Advance : State → State → Prop where
  | step (s : State) (e : Event) : Advance s (s.step e)
  | edit (s : State) (f : Session → Session) : Advance s (s.modifySession f)

/-- A world has gone on: its machine has taken steps, and more may have been asked for. -/
structure World.Extends (w w' : World) : Prop where
  advances : Relation.ReflTransGen Advance w.machine w'.machine
  asked : w.asked <+: w'.asked

namespace World.Extends

theorem refl (w : World) : Extends w w := ⟨.refl, List.prefix_rfl⟩

theorem trans {w w' w'' : World} (h : Extends w w') (h' : Extends w' w'') : Extends w w'' :=
  ⟨h.advances.trans h'.advances, h.asked.trans h'.asked⟩

/-- What a world keeps beside its machine does not matter. -/
theorem beside {w w' : World} (hmachine : w'.machine = w.machine) (hasked : w'.asked = w.asked) :
    Extends w w' :=
  ⟨hmachine ▸ .refl, hasked ▸ List.prefix_rfl⟩

theorem of_beside {w w₀ w' : World} (h : Extends w₀ w') (hmachine : w₀.machine = w.machine)
    (hasked : w₀.asked = w.asked) : Extends w w' :=
  (beside hmachine hasked).trans h

theorem machine_run (s : State) (events : List Event) :
    Relation.ReflTransGen Advance s (s.run events) := by
  induction events generalizing s with
  | nil => exact .refl
  | cons e events ih => exact .head (.step s e) (ih (s.step e))

theorem foldl {α : Type} {f : World → α → World} (h : ∀ w x, Extends w (f w x)) (w : World)
    (xs : List α) : Extends w (xs.foldl f w) := by
  induction xs generalizing w with
  | nil => exact refl w
  | cons x xs ih => exact (h w x).trans (ih (f w x))

theorem react (w : World) (e : Effect) : Extends w (w.react e) := by
  have hrun := machine_run w.machine (w.reaction e)
  unfold World.react
  simp only
  split
  · split <;> exact ⟨hrun, List.prefix_rfl⟩
  · exact ⟨hrun, List.prefix_rfl⟩

theorem after_step (w : World) (e : Event) :
    Extends { w with machine := w.machine.step e } (w.step e) := by
  unfold World.step
  simp only
  exact (foldl react _ _).of_beside rfl rfl

theorem step (w : World) (e : Event) : Extends w (w.step e) := by
  have hstep : Extends w { w with machine := w.machine.step e } :=
    ⟨.single (.step w.machine e), List.prefix_rfl⟩
  exact hstep.trans (after_step w e)

theorem seeKilled (w : World) : Extends w w.seeKilled := by
  refine foldl (fun w x => ?_) w _
  simp only
  split
  · split
    · exact refl w
    · exact step w _
  · exact refl w

theorem happen (w : World) (e : Event) : Extends w (w.happen e) :=
  (step w e).trans (seeKilled _)

theorem happenAll (w : World) (events : List Event) : Extends w (w.happenAll events) :=
  foldl happen w events

theorem resume (w : World) (t : TaskId) (e : Event) : Extends w (w.resume t e) :=
  of_beside (happen { w with schedule := w.schedule.forget t, begun := _ } e) rfl rfl

theorem takeScript (w : World) : Extends w w.takeScript.2 := by
  unfold World.takeScript
  split
  · exact beside rfl rfl
  · exact refl w

theorem create (w : World) (t : TaskId) : Extends w (w.create t) := by
  refine (takeScript w).trans ?_
  unfold World.create
  simp only
  split
  · exact resume _ t _
  · split
    · exact ((resume _ t _).trans (happenAll _ _)).of_beside rfl rfl
    · exact (resume _ t _).of_beside rfl rfl

theorem readItems (p : ProcessId) (name : OutputName) (most : Nat) (w : World) :
    Extends w (World.readItems p name most w) := by
  induction most generalizing w with
  | zero => exact refl w
  | succ most ih =>
      unfold World.readItems
      simp only
      split
      · exact (happen w _).trans (ih _)
      · exact refl w

theorem plan (w : World) : Extends w w.plan := beside rfl rfl

theorem drain (w : World) (t : TaskId) : Extends w (w.drain t) := by
  unfold World.drain
  split
  · simp only
    split <;> exact beside rfl rfl
  · exact refl w

theorem work (w : World) (t : TaskId) : Extends w (w.work t) := by
  unfold World.work
  split
  · simp only
    repeat' split
    all_goals first | exact (happenAll _ _).of_beside rfl rfl | exact beside rfl rfl
  · exact refl w

theorem make (part : Nat) (w : World) (move : Move) : Extends w (w.make part move) := by
  cases move with
  | ask request =>
      have hasked : Extends w { w with asked := w.asked ++ [(part, w.machine.tasks.length)] } :=
        ⟨.refl, List.prefix_append _ _⟩
      exact hasked.trans (happen _ _)
  | rescript change => exact beside rfl rfl
  | edit change => exact ⟨.single (.edit w.machine _), List.prefix_rfl⟩
  | _ =>
      simp only [World.make]
      split
      · exact happen w _
      · exact refl w

theorem begin (w : World) (part : Nat) : Extends w (w.begin part) := by
  unfold World.begin
  split
  · exact foldl (make part) w _
  · exact refl w

theorem fail (w : World) (t : TaskId) : Extends w (w.fail t) := by
  unfold World.fail
  split
  · exact beside rfl rfl
  · exact refl w

theorem act (w : World) (d : Deed) : Extends w (w.act d) := by
  cases d with
  | part i => exact begin w i
  | create t => exact create w t
  | wake p name => exact readItems p name _ w
  | gather p => exact beside rfl rfl
  | notice p => exact happen w _
  | drain t => exact drain w t
  | work t => exact work w t
  | fail t => exact fail w t
  | timeout t =>
      simp only [World.act]
      split <;> exact resume w t _
  | _ => exact resume w _ _

theorem settleWithin (fuel : Nat) (w : World) : Extends w (World.settleWithin fuel w) := by
  induction fuel generalizing w with
  | zero => exact refl w
  | succ fuel ih =>
      unfold World.settleWithin
      split
      · exact refl w
      · next next hnext =>
          refine trans ?_ (ih next)
          obtain ⟨⟨deed, schedule⟩, _, hd⟩ := Option.map_eq_some_iff.mp hnext
          cases deed with
          | none =>
              subst hd
              exact beside rfl rfl
          | some d =>
              subst hd
              exact ((act { w with schedule } d).trans (plan _)).of_beside rfl rfl

theorem settle (w : World) : Extends w w.settle :=
  (plan w).trans (settleWithin World.patience _)

end World.Extends

namespace World

theorem extends_request (w : World) (request : Request) :
    Extends
      { w with
        machine := w.machine.step (.call request)
        asked := [(0, w.machine.tasks.length)] } (w.request request).1 :=
  ((Extends.after_step _ _).trans ((Extends.seeKilled _).trans (.settle _))).of_beside rfl rfl

/-- What a request is answered with is what its task answers after all that has happened since. -/
theorem request_answered {w w' : World} {request : Request} {answer : Answer}
    (h : w.request request = (w', .ok answer)) (hanswer : answer ≠ .nothing) :
    Relation.ReflTransGen Advance (w.machine.step (.call request)) w'.machine ∧
      w'.machine.tasks[w.machine.tasks.length]? = some (.finished (.ok answer)) := by
  have hextends := w.extends_request request
  rw [h] at hextends
  obtain ⟨more, hasked⟩ := hextends.asked
  refine ⟨hextends.advances, ?_⟩
  have hsame : w'.answerOf 0 = answer := by
    obtain ⟨rfl, hresult⟩ := Prod.mk.inj h
    generalize World.answers _ = answers at hresult
    cases answers with
    | error e => cases hresult
    | ok _ => exact Except.ok.inj hresult
  have hlookup : w'.asked.lookup 0 = some w.machine.tasks.length := by
    rw [← hasked]
    rfl
  rw [answerOf, hlookup, Option.bind_some] at hsame
  split at hsame
  · next htask => rw [htask, hsame]
  · exact absurd hsame.symm hanswer

end World

end Datapack.Simulation
