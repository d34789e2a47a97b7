import Datapack.Proofs.Ledger.History

/-! What stands for a document is fresh if it was reported since the document was last cleared. A
report clears documents and leaves the stream alone, so the next line about such a document makes
all of its stream stand again. The records that come back this way are the only ones that are not
fresh. -/

namespace Datapack.Diagnostic

open Ledger (Entry)

/-- The records reported for a document since an empty list was last published for it. -/
def reportedSince (u : String) (h : List Entry) : List Record :=
  ((since (·.empties u) h).flatMap (·.reported)).filter (·.uri = u)

/-- The records of a document that stand again although it was cleared after they came: those that
lines brought after the last restart of its stream and before it was last cleared, if a line was
the last to show it. -/
def revived (u : String) (h : List Entry) : List Record :=
  let shown := upTo (·.shows u) h
  if shown.getLast?.any (·.operation.isLine) then
    (upTo (·.empties u) (since (·.restarts u) shown)).flatMap (·.streamed u)
  else []

/-! ### Entries since the last one of a kind -/

theorem mem_since_of_mem_since_since (kind other : Entry → Bool) {h : List Entry} {e : Entry}
    (he : e ∈ since kind (since other h)) : e ∈ since kind h := by
  induction h using List.reverseRecOn with
  | nil => exact he
  | append_singleton h d ih =>
      cases hother : other d with
      | true => simp [since_concat_of_pos other h hother] at he
      | false =>
          rw [since_concat_of_neg other h hother] at he
          cases hkind : kind d with
          | true => simp [since_concat_of_pos kind _ hkind] at he
          | false =>
              rw [since_concat_of_neg kind _ hkind] at he ⊢
              rcases List.mem_append.mp he with he | he
              · exact List.mem_append_left _ (ih he)
              · exact List.mem_append_right _ he

theorem Ledger.Entry.shows_of_empties {u : String} {e : Entry} (h : e.empties u) : e.shows u := by
  obtain ⟨p, hp, hempty⟩ := List.any_eq_true.mp h
  exact List.any_eq_true.mpr ⟨p, hp, decide_eq_true (of_decide_eq_true hempty).1⟩

theorem mem_reportedSince {u : String} {h : List Entry} {r : Record} :
    r ∈ reportedSince u h ↔ r.uri = u ∧ ∃ e ∈ since (·.empties u) h, r ∈ e.reported := by
  simp [reportedSince, and_comm]

theorem Ledger.Entry.mem_reported_of_mem_streamed {u : String} {e : Entry} {r : Record}
    (h : r ∈ e.streamed u) : r ∈ e.reported ∧ r.uri = u := by
  unfold streamed at h
  split at h
  · simpa using List.mem_filter.mp h
  · simp at h

/-! ### What one operation does -/

/-- What stands is what was revived, followed by what is fresh. -/
def Fresh (u : String) (h : List Entry) (records : List Record) : Prop :=
  ∃ fresh, records = revived u h ++ fresh ∧ ∀ r ∈ fresh, r ∈ reportedSince u h

theorem Fresh.hidden {u : String} {h : List Entry} {records : List Record} (hf : Fresh u h records)
    {e : Entry} (he : e.shows u = false) : Fresh u (h ++ [e]) records := by
  obtain ⟨fresh, hrecords, hfresh⟩ := hf
  have hempties : e.empties u = false := by
    by_contra hne
    rw [Bool.not_eq_false] at hne
    simp [Entry.shows_of_empties hne] at he
  refine ⟨fresh, ?_, ?_⟩
  · rw [hrecords, revived, revived, upTo_concat_of_neg (·.shows u) h he]
  · intro r hr
    obtain ⟨hru, d, hd, hrd⟩ := mem_reportedSince.mp (hfresh r hr)
    refine mem_reportedSince.mpr ⟨hru, d, ?_, hrd⟩
    rw [since_concat_of_neg (·.empties u) h hempties]
    exact List.mem_append_left _ hd

/-- A line that shows a document revives what its stream kept from before the last clearing, and
everything else in the stream is fresh. -/
theorem fresh_line {u : String} {h : List Entry} {e : Entry} (hline : e.operation.isLine)
    (he : e.shows u) : Fresh u (h ++ [e]) (streamedSince u (h ++ [e])) := by
  have hrevived : revived u (h ++ [e]) =
      (upTo (·.empties u) (since (·.restarts u) (h ++ [e]))).flatMap (·.streamed u) := by
    rw [revived, upTo_concat_of_pos (·.shows u) h he]
    simp [hline]
  refine ⟨(since (·.empties u) (since (·.restarts u) (h ++ [e]))).flatMap (·.streamed u), ?_, ?_⟩
  · rw [hrevived, ← List.flatMap_append, upTo_append_since, streamedSince]
  · intro r hr
    obtain ⟨d, hd, hrd⟩ := List.mem_flatMap.mp hr
    obtain ⟨hreported, hru⟩ := Entry.mem_reported_of_mem_streamed hrd
    exact mem_reportedSince.mpr ⟨hru, d, mem_since_of_mem_since_since _ _ hd, hreported⟩

/-- Operations other than lines revive nothing. -/
theorem fresh_of_not_line {u : String} {h : List Entry} {e : Entry} {records : List Record}
    (hline : e.operation.isLine = false) (he : e.shows u)
    (hrecords : records = [] ∨
      (e.empties u = false ∧ ∀ r ∈ records, r ∈ e.reported ∧ r.uri = u)) :
    Fresh u (h ++ [e]) records := by
  have hrevived : revived u (h ++ [e]) = [] := by
    rw [revived, upTo_concat_of_pos (·.shows u) h he]
    simp [hline]
  refine ⟨records, by rw [hrevived, List.nil_append], ?_⟩
  intro r hr
  rcases hrecords with rfl | ⟨hempties, hreported⟩
  · simp at hr
  · refine mem_reportedSince.mpr ⟨(hreported r hr).2, e, ?_, (hreported r hr).1⟩
    rw [since_concat_of_neg (·.empties u) h hempties]
    simp

/-- Of the operations that clear a document, only a report leaves its stream as it is. -/
theorem isReport_of_empties {t : Ledger} {op : Operation} {u : String}
    (he : (t.perform op).empties u) (hr : op.restarts u = false) : op.isReport := by
  cases op with
  | enterReport docs files folder report => rfl
  | openPass extra => simp [Operation.restarts] at hr
  | clearStream => simp [Operation.restarts] at hr
  | close v =>
      have hv : v = u := by
        simpa [Ledger.perform_close, Entry.empties] using he
      simp [Operation.restarts, hv] at hr
  | takeLine docs files raw =>
      rcases t.store_line docs files raw u with ⟨hhidden, _⟩ | ⟨_, hempties, _⟩
      · simp [Entry.shows_of_empties he] at hhidden
      · simp [hempties] at he

/-! ### Whole runs -/

theorem revived_eq_nil {ops : List Operation} {u : String}
    (h : ∀ e ∈ Ledger.history {} ops, e.operation.isReport → e.empties u = false) :
    revived u (Ledger.history {} ops) = [] := by
  have hnone : upTo (·.empties u)
      (since (·.restarts u) (upTo (·.shows u) (Ledger.history {} ops))) = [] := by
    apply upTo_eq_nil
    intro e he
    have hr := neg_of_mem_since _ he
    have hmem := mem_of_mem_upTo _ (mem_of_mem_since _ he)
    obtain ⟨t, op, rfl⟩ := Ledger.exists_perform_of_mem_history hmem
    by_contra hempties
    rw [Bool.not_eq_false] at hempties
    have hreport : (t.perform op).operation.isReport := by
      rw [Ledger.perform_operation]
      exact isReport_of_empties hempties (by simpa [Entry.restarts] using hr)
    simp [h _ hmem hreport] at hempties
  simp [revived, hnone]

theorem fresh_run (ops : List Operation) (u : String) :
    Fresh u (Ledger.history {} ops) ((Ledger.run {} ops).store.get u) := by
  induction ops using List.reverseRecOn with
  | nil => exact ⟨[], rfl, by simp⟩
  | append_singleton ops op ih =>
      have hstream := get_stream_run (ops ++ [op]) u
      rw [Ledger.run_concat, Ledger.history_concat] at hstream ⊢
      generalize Ledger.run {} ops = t at ih hstream ⊢
      cases hshows : (t.perform op).shows u with
      | false =>
          rw [Ledger.store_of_not_shows hshows]
          exact ih.hidden hshows
      | true =>
          cases op with
          | takeLine docs files raw =>
              rcases t.store_line docs files raw u with ⟨hhidden, _⟩ | ⟨_, _, _, hstands⟩
              · simp [hhidden] at hshows
              · rw [hstands, hstream]
                exact fresh_line (by simp [Operation.isLine]) hshows
          | openPass extra =>
              exact fresh_of_not_line (by simp [Operation.isLine]) hshows
                (.inl (t.store_openPass extra u))
          | clearStream => simp [Ledger.perform_clearStream, Entry.shows] at hshows
          | close v =>
              have hv : v = u := by
                simpa [Ledger.perform_close, Entry.shows] using hshows
              exact fresh_of_not_line (by simp [Operation.isLine]) hshows
                (.inl (by rw [t.store_close, if_pos hv]))
          | enterReport docs files folder report =>
              exact fresh_of_not_line (by simp [Operation.isLine]) hshows
                (t.store_report docs files folder report hshows)

/-- After any run, what stands for a document is what a line revived, followed by records that were
reported since the document was last cleared. So all that stands was reported since then exactly if
every revived record was reported again. Nothing is revived unless a report cleared the document. -/
theorem standing_fresh_iff_revived_reported (ops : List Operation) (u : String) :
    let h := Ledger.history {} ops
    let standing := (Ledger.run {} ops).store.get u
    (∃ fresh, standing = revived u h ++ fresh ∧ ∀ r ∈ fresh, r ∈ reportedSince u h) ∧
    ((∀ r ∈ standing, r ∈ reportedSince u h) ↔ ∀ r ∈ revived u h, r ∈ reportedSince u h) ∧
    ((∀ e ∈ h, e.operation.isReport → e.empties u = false) → revived u h = []) := by
  intro h standing
  obtain ⟨fresh, hstanding, hfresh⟩ := fresh_run ops u
  change standing = revived u h ++ fresh at hstanding
  refine ⟨⟨fresh, hstanding, hfresh⟩, ⟨?_, ?_⟩, revived_eq_nil⟩
  · intro hall r hr
    apply hall
    rw [hstanding]
    exact List.mem_append_left _ hr
  · intro hrevived r hr
    rw [hstanding] at hr
    rcases List.mem_append.mp hr with hr | hr
    · exact hrevived r hr
    · exact hfresh r hr

/-- A record is streamed, a report clears its document, and a further record is streamed. -/
def clearedRun : List Operation :=
  [.line "error:/ws/a.dps|1-0|old", .enterReport (.given [] []) {} ⟨.slash, ["ws"]⟩ none,
   .line "error:/ws/a.dps|2-0|new"]

/-- The record that the report cleared stands again, although nothing reported it since. -/
theorem clearedRun_revives :
    ¬∀ (ops : List Operation) (u : String), ∀ r ∈ (Ledger.run {} ops).store.get u,
      r ∈ reportedSince u (Ledger.history {} ops) := by
  intro hall
  have hold := hall clearedRun "file:///ws/a.dps"
    { uri := "file:///ws/a.dps", line := 0, column := 0, message := "old" } (by decide +kernel)
  exact absurd hold (by decide +kernel)

end Datapack.Diagnostic
