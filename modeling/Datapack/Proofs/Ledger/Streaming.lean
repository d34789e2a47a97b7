import Datapack.Proofs.Ledger.History

/-! Streamed passes over whole runs without reports: the stream of a document is what lines brought
since its last restart, and as long as that is not empty it is what stands. -/

namespace Datapack.Diagnostic

open Ledger (Entry)

/-- What stands for a document after a history of streamed passes. If nothing was streamed since the
last restart, what stood before is kept by a restart that only forgets the stream. -/
structure Standing (u : String) (h : List Entry) (records : List Record) : Prop where
  streamed : streamedSince u h ≠ [] → records = streamedSince u h
  kept : streamedSince u h = [] → ∀ e, lastRestart? u h = some e → e.operation = .clearStream →
    records = e.before.store.get u
  emptied : streamedSince u h = [] →
    (∀ e, lastRestart? u h = some e → e.operation ≠ .clearStream) → records = []

theorem standing_nil (u : String) : Standing u [] [] := by
  refine ⟨fun h => absurd rfl h, ?_, fun _ _ => rfl⟩
  intro _ e he
  cases he

/-- An entry that neither streams nor restarts a document leaves it standing as it was. -/
theorem Standing.unchanged {u : String} {h : List Entry} {records : List Record}
    (hs : Standing u h records) {e : Entry} (hr : e.restarts u = false) (he : e.streamed u = []) :
    Standing u (h ++ [e]) records := by
  have hsince : streamedSince u (h ++ [e]) = streamedSince u h := by
    simp [streamedSince_concat, hr, he]
  have hlast : lastRestart? u (h ++ [e]) = lastRestart? u h := by
    simp [lastRestart?_concat, hr]
  refine ⟨?_, ?_, ?_⟩
  · rw [hsince]; exact hs.streamed
  · rw [hsince, hlast]; exact hs.kept
  · rw [hsince, hlast]; exact hs.emptied

/-- What one operation that is no report does to what stands. -/
theorem Standing.perform {u : String} {h : List Entry} {t : Ledger}
    (hs : Standing u h (t.store.get u)) (hstream : t.stream.get u = streamedSince u h)
    {op : Operation} (hop : op.isReport = false) :
    Standing u (h ++ [t.perform op]) ((t.perform op).after.store.get u) := by
  have hlast (hr : op.restarts u) : lastRestart? u (h ++ [t.perform op]) = some (t.perform op) := by
    simp [lastRestart?_concat, Entry.restarts, hr]
  have hsince (hr : op.restarts u) : streamedSince u (h ++ [t.perform op]) = [] := by
    simp [streamedSince_concat, Entry.restarts, hr]
  cases op with
  | enterReport docs files folder report => cases hop
  | openPass extra =>
      rw [Ledger.store_openPass]
      refine ⟨fun hne => absurd (hsince rfl) hne, ?_, fun _ _ => rfl⟩
      intro _ e he hclear
      rw [hlast rfl, Option.some.injEq] at he
      subst e
      simp at hclear
  | clearStream =>
      refine ⟨fun hne => absurd (hsince rfl) hne, ?_, ?_⟩
      · intro _ e he _
        rw [hlast rfl, Option.some.injEq] at he
        subst e
        rfl
      · intro _ hne
        exact absurd (Ledger.perform_operation t _) (hne _ (hlast rfl))
  | close v =>
      rw [Ledger.store_close]
      by_cases hv : v = u
      · have hr : (Operation.close v).restarts u := by simp [Operation.restarts, hv]
        rw [if_pos hv]
        refine ⟨fun hne => absurd (hsince hr) hne, ?_, fun _ _ => rfl⟩
        intro _ e he hclear
        rw [hlast hr, Option.some.injEq] at he
        subst e
        simp at hclear
      · rw [if_neg hv]
        apply hs.unchanged
        · simp [Entry.restarts, Operation.restarts, hv]
        · simp [Entry.streamed, Operation.isLine]
  | takeLine docs files raw =>
      have hr : (t.perform (.takeLine docs files raw)).restarts u = false := by
        simp [Entry.restarts, Operation.restarts]
      rcases t.store_line docs files raw u with ⟨hhidden, hnone⟩ | ⟨_, _, hsome, hstands⟩
      · rw [Ledger.store_of_not_shows hhidden]
        exact hs.unchanged hr hnone
      · have hstreamed : (t.perform (.takeLine docs files raw)).after.store.get u =
            streamedSince u (h ++ [t.perform (.takeLine docs files raw)]) := by
          rw [hstands, Ledger.get_stream_perform, streamedSince_concat, hr, hstream]
          rfl
        have hne : streamedSince u (h ++ [t.perform (.takeLine docs files raw)]) ≠ [] := by
          simp [streamedSince_concat, hr, hsome]
        exact ⟨fun _ => hstreamed, fun hnil => absurd hnil hne, fun hnil => absurd hnil hne⟩

theorem standing_run (ops : List Operation) (hops : ∀ op ∈ ops, op.isReport = false) (u : String) :
    Standing u (Ledger.history {} ops) ((Ledger.run {} ops).store.get u) := by
  induction ops using List.reverseRecOn with
  | nil => exact standing_nil u
  | append_singleton ops op ih =>
      rw [Ledger.run_concat, Ledger.history_concat]
      apply (ih fun o ho => hops o (by simp [ho])).perform (get_stream_run ops u)
      exact hops op (by simp)

/-- After any run without reports, the stream of a document is what lines brought since its last
restart. If that is not empty it is what stands; if it is empty, then what stood before a restart
that only forgot the stream still stands, and after any other restart nothing does. -/
theorem stream_and_store_of_streaming_run (ops : List Operation)
    (hops : ∀ op ∈ ops, op.isReport = false) (u : String) :
    let h := Ledger.history {} ops
    let t := Ledger.run {} ops
    t.stream.get u = streamedSince u h ∧
    (u ∈ Ordered.keys t.stream ↔ streamedSince u h ≠ []) ∧
    (streamedSince u h ≠ [] → t.store.get u = streamedSince u h) ∧
    (streamedSince u h = [] →
      (∀ e, lastRestart? u h = some e → e.operation = .clearStream →
        t.store.get u = e.before.store.get u) ∧
      ((∀ e, lastRestart? u h = some e → e.operation ≠ .clearStream) → t.store.get u = [])) := by
  have hs := standing_run ops hops u
  refine ⟨get_stream_run ops u, ?_, hs.streamed, fun hnil => ⟨hs.kept hnil, hs.emptied hnil⟩⟩
  rw [Ordered.mem_keys_iff_lookup, lookup_stream_run]
  split <;> simp_all

/-- Two documents have a record when the stream is forgotten, and one of them has a further one. -/
def forgottenRun : List Operation :=
  [.line "error:/ws/a.dps|1-0|old", .line "error:/ws/b.dps|2-1|first", .clearStream,
   .line "error:/ws/b.dps|3-0|next"]

theorem store_of_forgottenRun :
    (∀ op ∈ forgottenRun, op.isReport = false) ∧
    (Ledger.run {} forgottenRun).store.get "file:///ws/a.dps" =
      [{ uri := "file:///ws/a.dps", line := 0, column := 0, message := "old" }] ∧
    (Ledger.run {} forgottenRun).store.get "file:///ws/b.dps" =
      [{ uri := "file:///ws/b.dps", line := 2, column := 0, message := "next" }] := by
  have hops : ∀ op ∈ forgottenRun, op.isReport = false := by
    simp [forgottenRun, Operation.line, Operation.isReport]
  refine ⟨hops, ?_, ?_⟩
  · obtain ⟨_, _, _, hkept⟩ := stream_and_store_of_streaming_run _ hops "file:///ws/a.dps"
    have hnil : streamedSince "file:///ws/a.dps" (Ledger.history {} forgottenRun) = [] := by
      decide +kernel
    rw [(hkept hnil).1 ((Ledger.run {} (forgottenRun.take 2)).perform .clearStream) rfl rfl]
    decide +kernel
  · obtain ⟨_, _, hstreamed, _⟩ := stream_and_store_of_streaming_run _ hops "file:///ws/b.dps"
    have hne : streamedSince "file:///ws/b.dps" (Ledger.history {} forgottenRun) ≠ [] := by
      decide +kernel
    rw [hstreamed hne]
    decide +kernel

end Datapack.Diagnostic
