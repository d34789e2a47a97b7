import Datapack.Fault
import Mathlib.Data.List.Forall2

/-! What computations that may fail come to. One in two parts fails where one of them does, and one
that goes through a list fails at the first item at which it fails. -/

namespace Datapack

theorem bind_eq_ok_iff {ε α β : Type} {x : Except ε α} {f : α → Except ε β} {b : β} :
    x >>= f = .ok b ↔ ∃ a, x = .ok a ∧ f a = .ok b := by
  cases x <;> simp [bind, Except.bind]

theorem map_eq_ok_iff {ε α β : Type} {x : Except ε α} {f : α → β} {b : β} :
    x.map f = .ok b ↔ ∃ a, x = .ok a ∧ f a = b := by
  cases x <;> simp [Except.map]

/-- A computation in two parts fails where one of them does. -/
theorem of_bind_eq_error {ε α β : Type} {p : ε → Prop} {x : Except ε α} {f : α → Except ε β} {e : ε}
    (h : x >>= f = .error e) (hx : ∀ e, x = .error e → p e) (hf : ∀ a e, f a = .error e → p e) :
    p e := by
  cases x with
  | error e' =>
      cases h
      exact hx e rfl
  | ok a => exact hf a e h

/-- Only the first part of a computation can fail. -/
theorem bind_eq_error_iff {α β : Type} {x : Except Fault α} {f : α → Except Fault β}
    (h : ∀ a, x = .ok a → ∃ b, f a = .ok b) {e : Fault} : x >>= f = .error e ↔ x = .error e := by
  cases x with
  | error e' => simp [bind, Except.bind]
  | ok a =>
      obtain ⟨b, hb⟩ := h a rfl
      simp [bind, Except.bind, hb]

theorem isOk_iff_exists {ε α : Type} {x : Except ε α} : x.isOk ↔ ∃ a, x = .ok a := by
  cases x with
  | error e => exact ⟨nofun, nofun⟩
  | ok a => exact ⟨fun _ => ⟨a, rfl⟩, fun _ => rfl⟩

theorem isOk_mapM_iff {α β : Type} {f : α → Except Fault β} {xs : List α} :
    (xs.mapM f).isOk ↔ ∀ x ∈ xs, (f x).isOk := by
  induction xs with
  | nil => exact ⟨fun _ x hx => absurd hx List.not_mem_nil, fun _ => rfl⟩
  | cons x xs ih =>
      rw [List.mapM_cons, List.forall_mem_cons, ← ih]
      cases f x with
      | error e => exact ⟨nofun, nofun⟩
      | ok y =>
          cases xs.mapM f with
          | error e => exact ⟨nofun, nofun⟩
          | ok ys => exact ⟨fun _ => ⟨rfl, rfl⟩, fun _ => rfl⟩

theorem forall₂_of_mapM_ok {α β : Type} {f : α → Except Fault β} {xs : List α} {ys : List β}
    (h : xs.mapM f = .ok ys) : List.Forall₂ (fun x y => f x = .ok y) xs ys := by
  induction xs generalizing ys with
  | nil =>
      simp only [List.mapM_nil, pure, Except.pure, Except.ok.injEq] at h
      subst ys
      exact .nil
  | cons x xs ih =>
      rw [List.mapM_cons] at h
      cases hx : f x with
      | error e => simp [hx, bind, Except.bind] at h
      | ok y =>
          cases hxs : xs.mapM f with
          | error e => simp [hx, hxs, bind, Except.bind] at h
          | ok rest =>
              simp only [hx, hxs, bind, Except.bind, pure, Except.pure, Except.ok.injEq] at h
              subst ys
              exact .cons hx (ih hxs)

theorem forall₂_of_comp {α β γ : Type} {R : α → β → Prop} {S : β → γ → Prop} {T : α → γ → Prop}
    (himp : ∀ a b c, R a b → S b c → T a c) {as : List α} {bs : List β} {cs : List γ}
    (h : List.Forall₂ R as bs) (h' : List.Forall₂ S bs cs) : List.Forall₂ T as cs := by
  induction h generalizing cs with
  | nil =>
      cases h'
      exact .nil
  | cons hab _ ih =>
      cases h' with
      | cons hbc hrest => exact .cons (himp _ _ _ hab hbc) (ih hrest)

theorem exists_of_mem_of_mapM_ok {α β : Type} {f : α → Except Fault β} {xs : List α} {ys : List β}
    (h : xs.mapM f = .ok ys) {y : β} (hy : y ∈ ys) : ∃ x ∈ xs, f x = .ok y := by
  have hall := forall₂_of_mapM_ok h
  clear h
  induction hall with
  | nil => cases hy
  | @cons x _ _ _ hx _ ih =>
      rcases List.mem_cons.mp hy with rfl | hy
      · exact ⟨x, List.mem_cons_self, hx⟩
      · obtain ⟨x', hx', hy⟩ := ih hy
        exact ⟨x', List.mem_cons_of_mem _ hx', hy⟩

theorem mapM_eq_error_iff {α β : Type} {f : α → Except Fault β} {e : Fault}
    (h : ∀ x e', f x = .error e' → e' = e) {xs : List α} {e' : Fault} :
    xs.mapM f = .error e' ↔ e' = e ∧ ∃ x ∈ xs, f x = .error e := by
  induction xs with
  | nil => simp [pure, Except.pure]
  | cons x xs ih =>
      rw [List.mapM_cons]
      cases hx : f x with
      | error e'' =>
          obtain rfl := h x e'' hx
          simp [hx, bind, Except.bind, eq_comm]
      | ok y =>
          simp only [List.exists_mem_cons_iff, hx, reduceCtorEq, false_or]
          exact (bind_eq_error_iff fun ys _ => ⟨y :: ys, rfl⟩).trans ih

end Datapack
