import Datapack.Proofs.Ledger.Operations
import Mathlib.Data.List.DropRight

/-! Runs of operations on a ledger, their histories, and the part of a history since the last entry
of some kind. The stream holds, for every document, what lines brought since it was last
restarted. -/

namespace Datapack.Diagnostic

open Ledger (Entry)

/-! ### Runs and histories -/

namespace Ledger

/-- Does operations one after the other. -/
def run (t : Ledger) (ops : List Operation) : Ledger :=
  ops.foldl (fun t op => (t.perform op).after) t

/-- The entries of operations done one after the other. -/
def history (t : Ledger) : List Operation → List Entry
  | [] => []
  | op :: rest => t.perform op :: (t.perform op).after.history rest

@[simp] theorem history_nil (t : Ledger) : t.history [] = [] := rfl

theorem run_cons (t : Ledger) (op : Operation) (ops : List Operation) :
    t.run (op :: ops) = (t.perform op).after.run ops :=
  rfl

theorem run_concat (t : Ledger) (ops : List Operation) (op : Operation) :
    t.run (ops ++ [op]) = ((t.run ops).perform op).after := by
  simp [run]

theorem history_concat (t : Ledger) (ops : List Operation) (op : Operation) :
    t.history (ops ++ [op]) = t.history ops ++ [(t.run ops).perform op] := by
  induction ops generalizing t with
  | nil => rfl
  | cons first ops ih => simpa [history, run] using ih (t.perform first).after

theorem exists_perform_of_mem_history {t : Ledger} {ops : List Operation} {e : Entry}
    (h : e ∈ t.history ops) : ∃ s op, e = perform s op := by
  induction ops generalizing t with
  | nil => simp at h
  | cons op ops ih =>
      rcases List.mem_cons.mp h with rfl | h
      · exact ⟨t, op, rfl⟩
      · exact ih h

end Ledger

/-! ### The last entry of some kind -/

/-- The entries after the last one of a kind; all of them if there is none. -/
def since (kind : Entry → Bool) (h : List Entry) : List Entry := h.rtakeWhile fun e => !kind e

/-- The entries up to the last one of a kind, which is their last; nothing if there is none. -/
def upTo (kind : Entry → Bool) (h : List Entry) : List Entry := h.rdropWhile fun e => !kind e

section

variable (kind : Entry → Bool) {e : Entry}

@[simp] theorem since_nil : since kind [] = [] := rfl

theorem since_concat_of_pos (h : List Entry) (hk : kind e) : since kind (h ++ [e]) = [] :=
  List.rtakeWhile_concat_neg _ _ _ (by simp [hk])

theorem since_concat_of_neg (h : List Entry) (hk : kind e = false) :
    since kind (h ++ [e]) = since kind h ++ [e] :=
  List.rtakeWhile_concat_pos _ _ _ (by simp [hk])

theorem upTo_concat_of_pos (h : List Entry) (hk : kind e) : upTo kind (h ++ [e]) = h ++ [e] :=
  List.rdropWhile_concat_neg _ _ _ (by simp [hk])

theorem upTo_concat_of_neg (h : List Entry) (hk : kind e = false) :
    upTo kind (h ++ [e]) = upTo kind h :=
  List.rdropWhile_concat_pos _ _ _ (by simp [hk])

theorem upTo_append_since (h : List Entry) : upTo kind h ++ since kind h = h := by
  induction h using List.reverseRecOn with
  | nil => rfl
  | append_singleton h e ih =>
      cases hk : kind e with
      | true => rw [upTo_concat_of_pos kind h hk, since_concat_of_pos kind h hk, List.append_nil]
      | false =>
          rw [upTo_concat_of_neg kind h hk, since_concat_of_neg kind h hk, ← List.append_assoc, ih]

theorem mem_of_mem_since {h : List Entry} (he : e ∈ since kind h) : e ∈ h := by
  rw [← upTo_append_since kind h]
  exact List.mem_append_right _ he

theorem mem_of_mem_upTo {h : List Entry} (he : e ∈ upTo kind h) : e ∈ h := by
  rw [← upTo_append_since kind h]
  exact List.mem_append_left _ he

theorem neg_of_mem_since {h : List Entry} (he : e ∈ since kind h) : kind e = false := by
  simpa using List.mem_rtakeWhile_imp he

theorem upTo_eq_nil {h : List Entry} (hk : ∀ e ∈ h, kind e = false) : upTo kind h = [] := by
  rw [upTo, List.rdropWhile_eq_nil_iff]
  simpa using hk

end

/-! ### What lines brought -/

/-- The records that lines brought for a document since its stream was last restarted, in order. -/
def streamedSince (u : String) (h : List Entry) : List Record :=
  (since (·.restarts u) h).flatMap (·.streamed u)

/-- The last entry that restarted the stream of a document. -/
def lastRestart? (u : String) (h : List Entry) : Option Entry := (upTo (·.restarts u) h).getLast?

theorem streamedSince_concat (u : String) (h : List Entry) (e : Entry) :
    streamedSince u (h ++ [e]) =
      if e.restarts u then [] else streamedSince u h ++ e.streamed u := by
  cases hr : e.restarts u with
  | true => simp [streamedSince, since_concat_of_pos (·.restarts u) h hr]
  | false => simp [streamedSince, since_concat_of_neg (·.restarts u) h hr]

theorem lastRestart?_concat (u : String) (h : List Entry) (e : Entry) :
    lastRestart? u (h ++ [e]) = if e.restarts u then some e else lastRestart? u h := by
  cases hr : e.restarts u with
  | true => simp [lastRestart?, upTo_concat_of_pos (·.restarts u) h hr]
  | false => simp [lastRestart?, upTo_concat_of_neg (·.restarts u) h hr]

/-- After any run the stream holds exactly what lines brought since the last restart. -/
theorem lookup_stream_run (ops : List Operation) (u : String) :
    (Ledger.run {} ops).stream.lookup u =
      if streamedSince u (Ledger.history {} ops) = [] then none
      else some (streamedSince u (Ledger.history {} ops)) := by
  induction ops using List.reverseRecOn with
  | nil => rfl
  | append_singleton ops op ih =>
      rw [Ledger.run_concat, Ledger.history_concat, Ledger.lookup_stream_perform,
        streamedSince_concat, Stream.get, ih]
      simp only [Entry.restarts, Ledger.perform_operation]
      generalize streamedSince u (Ledger.history {} ops) = streamed
      generalize ((Ledger.run {} ops).perform op).streamed u = brought
      cases op.restarts u with
      | true => rfl
      | false => cases streamed <;> cases brought <;> simp

theorem get_stream_run (ops : List Operation) (u : String) :
    (Ledger.run {} ops).stream.get u = streamedSince u (Ledger.history {} ops) := by
  rw [Stream.get, lookup_stream_run]
  split <;> simp_all

end Datapack.Diagnostic
