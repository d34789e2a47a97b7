import Datapack.Proofs.Machine.BatchPasses

/-! The client's view of a session. What stands is what the client was told last about every
document, since nothing changes the store but what is published. An operation that fails does so
before it has told or changed anything. -/

namespace Datapack

/-! ### Stores without idle entries -/

theorem Ordered.keys_remove {α : Type} (key : String) (m : Ordered α) :
    keys (remove key m) = (keys m).filter (· != key) := by
  simp [keys, remove, List.filter_map, Function.comp_def]

namespace Diagnostic.Store

/-- Every document is listed once, and only documents with diagnostics are. -/
structure Tidy (s : Store) : Prop where
  once : (Ordered.keys s).Nodup
  filled : ∀ u ∈ Ordered.keys s, s.get u ≠ []

theorem Tidy.note {s : Store} (h : s.Tidy) (p : Publication) : (s.note p).Tidy := by
  refine ⟨?_, ?_⟩
  · unfold Store.note
    split
    · rw [Ordered.keys_remove]
      exact h.once.filter _
    · rw [Ordered.keys_put]
      split
      · exact h.once
      · next hnew => exact h.once.append (List.nodup_singleton _) (by simpa using hnew)
  · intro u hu
    rw [get_note]
    split
    · next heq =>
        -- An empty list takes its document out of the store.
        intro hnil
        rw [Store.note, if_pos hnil, heq, Ordered.keys_remove] at hu
        simp at hu
    · next hne =>
        refine h.filled u ?_
        unfold Store.note at hu
        split at hu
        · rw [Ordered.keys_remove] at hu
          exact List.mem_of_mem_filter hu
        · rw [Ordered.keys_put] at hu
          split at hu
          · exact hu
          · simpa [hne] using hu

theorem tidy_foldl_note (ps : List Publication) : Tidy (ps.foldl note []) := by
  induction ps using List.reverseRecOn with
  | nil => exact ⟨List.nodup_nil, by simp [Ordered.keys]⟩
  | append_singleton ps p ih =>
      rw [List.foldl_append, List.foldl_cons, List.foldl_nil]
      exact ih.note p

theorem Tidy.mem_keys_iff {s : Store} (h : s.Tidy) {u : String} :
    u ∈ Ordered.keys s ↔ s.get u ≠ [] := by
  refine ⟨h.filled u, fun hne => ?_⟩
  by_contra hu
  exact hne (get_eq_nil_of_not_mem hu)

end Diagnostic.Store

namespace Machine

open Diagnostic

/-! ### Calls -/

/-- What is asked of the diagnostics of a session. Its documents and the files may change in
between. -/
inductive DiagnosticCall where
  | openPass (extra : List String)
  | takeLine (raw : String)
  | clearStream
  | enterReport (folder : Path) (report : Option Report)
  | closeDocument (uri : String)
  | change (documents : Documents) (files : FileTree)

namespace State

def answer (s : State) : DiagnosticCall → State × Except Fault Unit
  | .openPass extra => s.openPass extra
  | .takeLine raw => s.takeLine s.generation raw
  | .clearStream => (s.clearStream, .ok ())
  | .enterReport folder report => s.enterReport folder report
  | .closeDocument uri => s.closeDocument uri
  | .change documents files =>
    ({ s.modifySession (fun q => { q with documents }) with files }, .ok ())

/-- Answers calls one after the other, whether they fail or not. -/
def answerAll (s : State) (calls : List DiagnosticCall) : State :=
  calls.foldl (fun s call => (s.answer call).1) s

/-- The session keeps what was published, all of which its client has taken. -/
structure Shows (s : State) (q : Session) : Prop where
  session : s.session = some q
  takes : ∀ p, q.publisher p = .ok ()
  store : q.ledger.store = (publications s.trace.toList).foldl Store.note []

variable {s : State} {q : Session}

/-- An operation keeps the store in step with the client; one that fails does nothing at all. -/
theorem Shows.submit (h : s.Shows q) (op : Session → Operation) :
    (∃ q', (s.submit s.generation op).1.Shows q') ∧
      ∀ e, (s.submit s.generation op).2 = .error e → (s.submit s.generation op).1 = s := by
  cases hplan : (op q).plan q.ledger with
  | error e =>
      have hrun := Ledger.run_work_of_error hplan q.publisher
      have hsame : (s.submit s.generation op).1 = s := by
        rw [State.submit, edit_eq h.session _ hrun]
        simp [← h.session]
      rw [hsame]
      exact ⟨⟨q, h⟩, fun _ _ => rfl⟩
  | ok c =>
      have hrun := Ledger.run_work_of_taken hplan fun p _ => h.takes p
      rw [State.submit, edit_eq h.session _ hrun]
      refine ⟨⟨_, rfl, h.takes, ?_⟩, by rintro _ ⟨⟩⟩
      simp [Ledger.perform_of_ok hplan, h.store]

theorem Shows.answer (h : s.Shows q) (call : DiagnosticCall) :
    (∃ q', (s.answer call).1.Shows q') ∧
      ∀ e, (s.answer call).2 = .error e → (s.answer call).1 = s := by
  cases call with
  | openPass extra =>
      rw [State.answer, openPass_eq_submit]
      exact h.submit _
  | takeLine raw =>
      rw [State.answer, takeLine_eq_submit]
      exact h.submit _
  | clearStream =>
      refine ⟨⟨{ q with ledger := q.ledger.clearStream }, ?_, h.takes, ?_⟩, by rintro _ ⟨⟩⟩
      · simp [State.answer, clearStream, modifySession, h.session]
      · exact h.store
  | enterReport folder report =>
      rw [State.answer, enterReport_eq_submit]
      exact h.submit _
  | closeDocument uri =>
      rw [State.answer, closeDocument_eq_submit]
      exact h.submit _
  | change documents files =>
      refine ⟨⟨{ q with documents }, ?_, h.takes, h.store⟩, by rintro _ ⟨⟩⟩
      simp [State.answer, modifySession, h.session]

theorem Shows.answerAll (h : s.Shows q) (calls : List DiagnosticCall) :
    ∃ q', (s.answerAll calls).Shows q' := by
  induction calls generalizing s q with
  | nil => exact ⟨q, h⟩
  | cons call calls ih =>
      obtain ⟨⟨q', hshows⟩, _⟩ := h.answer call
      exact ih hshows

end State

/-- After any calls, whether they failed or not, what stands for a document is what the client was
told last about it, and exactly the documents of which it was last told something are listed, each
once. A call that fails leaves everything as it was. -/
theorem standing_is_client_view {session : Session} (htakes : ∀ p, session.publisher p = .ok ())
    (hnew : session.ledger = {}) (files : FileTree) (calls : List DiagnosticCall) :
    let s := State.answerAll { session := some session, files } calls
    let told := publications s.trace.toList
    (∀ u, s.standing.get u = (latest? u told).getD []) ∧
    (Ordered.keys s.standing).Nodup ∧
    (∀ u, u ∈ Ordered.keys s.standing ↔ ∃ records, latest? u told = some records ∧ records ≠ []) ∧
    ∀ call e, (s.answer call).2 = .error e → (s.answer call).1 = s := by
  intro s told
  have hstart : State.Shows { session := some session, files } session := by
    refine ⟨rfl, htakes, ?_⟩
    rw [hnew]
    rfl
  obtain ⟨session', hshows⟩ := hstart.answerAll calls
  have hstanding : s.standing = told.foldl Store.note [] := by
    rw [State.standing, hshows.session]
    exact hshows.store
  have htidy := Store.tidy_foldl_note told
  have hview (u : String) : s.standing.get u = (latest? u told).getD [] := by
    rw [hstanding, Store.get_foldl_note]
    rfl
  rw [← hstanding] at htidy
  refine ⟨hview, htidy.once, fun u => ?_, fun call => (hshows.answer call).2⟩
  rw [htidy.mem_keys_iff, hview]
  cases latest? u told <;> simp

/-- A session whose client takes everything. -/
def tellingSession : Session :=
  { settings := .default, documents := .given [] [], publisher := .accepting }

/-- A source that has lost its documents. -/
def lostDocuments : Documents := .other (fun _ => .error .undecodable) (.error .undecodable) (.ok [])

/-- Two documents get a record, and a report clears one of them. In between come a report that holds
a path without a uri, and a report and a line for which a source of documents fails. -/
def tellingCalls : List DiagnosticCall :=
  [.takeLine "error:/ws/a.dps|1-0|old", .takeLine "error:/lib/b.dps|2-1|kept",
   .enterReport ⟨.slash, ["ws"]⟩ (some ⟨[⟨"c.dps", 1, 0, "lost"⟩, ⟨"//c", 1, 0, "lost"⟩], []⟩),
   .change lostDocuments {}, .enterReport ⟨.slash, ["ws"]⟩ none,
   .takeLine "error:/ws/d.dps|-1-0|lost", .change (.given [] []) {},
   .enterReport ⟨.slash, ["ws"]⟩ none]

theorem client_view_of_tellingCalls :
    (∀ p, tellingSession.publisher p = .ok ()) ∧ tellingSession.ledger = {} ∧
    (State.answerAll { session := some tellingSession } tellingCalls).standing.get
      "file:///ws/a.dps" = [] ∧
    Ordered.keys (State.answerAll { session := some tellingSession } tellingCalls).standing =
      ["file:///lib/b.dps"] ∧
    ((State.answerAll { session := some tellingSession } tellingCalls).answer
      (.takeLine "error://c|1-0|lost")).1 =
      State.answerAll { session := some tellingSession } tellingCalls := by
  have htakes : ∀ p, tellingSession.publisher p = .ok () := fun _ => rfl
  obtain ⟨hview, _, _, hfails⟩ := standing_is_client_view htakes rfl {} tellingCalls
  refine ⟨htakes, rfl, ?_, by decide +kernel, ?_⟩
  · rw [hview]
    decide +kernel
  · exact hfails _ .noShare (by rfl)

end Machine

end Datapack
