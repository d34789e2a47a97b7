import Datapack.Proofs.Ledger.Calls
import Datapack.Proofs.Machine.Commands
import Datapack.Proofs.PathUris

/-! Closing a document. Records are kept under the uri that is made of the path of their file, and a
closed document is forgotten under the uri that the client wrote. Other uris name the file as well,
and closing the document under one of those forgets nothing of it. -/

namespace Datapack

namespace Diagnostic

/-! ### Records under their uris -/

/-- Every record is kept under its own uri, in the store and in the stream. -/
abbrev Ledger.Keyed (t : Ledger) : Prop := t.Each fun u r => r.uri = u

namespace Ledger.Keyed

variable {t : Ledger}

theorem empty : Keyed {} := Each.empty

theorem submit (h : t.Keyed) (publisher : Publisher) (op : Operation) :
    (t.submit publisher op).Keyed :=
  Each.submit h publisher fun _ _ _ => rfl

theorem submitAll (h : t.Keyed) (calls : Calls) : (t.submitAll calls).Keyed :=
  Each.submitAll h fun _ _ _ => rfl

theorem holds_iff (h : t.Keyed) {r : Record} :
    t.Holds r ↔ r ∈ t.store.get r.uri ∨ r ∈ t.stream.get r.uri := by
  constructor
  · rintro ⟨u, hheld⟩
    have hu : r.uri = u := Each.of_lists h hheld
    rwa [hu]
  · exact fun hheld => ⟨r.uri, hheld⟩

end Ledger.Keyed

/-! ### Closing -/

theorem Ledger.submit_close (publisher : Publisher) (t : Ledger) (uri : String) :
    t.submit publisher (.close uri) = ⟨t.store.note ⟨uri, []⟩, Ordered.remove uri t.stream⟩ := by
  rw [submit, Operation.run_work, plan_close]
  simp only [follow, commit, publishAll]
  cases publisher ⟨uri, []⟩ <;> rfl

/-- Closing a document forgets the records that are kept under the uri, and no others. -/
theorem Ledger.Keyed.holds_close_iff {t : Ledger} (h : t.Keyed) (publisher : Publisher)
    (uri : String) (r : Record) :
    (t.submit publisher (.close uri)).Holds r ↔ uri ≠ r.uri ∧ t.Holds r := by
  rw [(h.submit publisher (.close uri)).holds_iff, h.holds_iff, submit_close, Store.get_note,
    Stream.get, Stream.get, Ordered.lookup_remove]
  by_cases hu : r.uri = uri
  · simp [hu]
  · simp [hu, Ne.symm hu]

end Diagnostic

namespace Machine

open Diagnostic

theorem State.session_closeDocument {s : State} {session : Session} (h : s.session = some session)
    (uri : String) :
    (s.closeDocument uri).1.session = some { session with
      ledger := session.ledger.submit session.publisher (.close uri) } := by
  rw [closeDocument_eq_submit, State.submit, edit_eq h _ rfl]
  rfl

/-- Closing a document forgets the records that were reported for a file exactly if the uri is the
one that is made of its path, whatever lines and reports came before and whatever the client took of
them. That uri names the file, but so do others, and those leave all that is held for it. -/
theorem State.closeDocument_forgets_iff {path : String} (hpath : Uri.IsFilePath path.toList) :
    ∃ filed, Uri.ofPath path = .ok filed ∧ Uri.toPath filed = .ok (some path) ∧
      (∃ other, other ≠ filed ∧ Uri.toPath other = .ok (some path)) ∧
      ∀ (s : State) (session : Session) (calls : Calls), s.session = some session →
        session.ledger = Ledger.submitAll {} calls → ∀ uri, ∃ session',
          (s.closeDocument uri).1.session = some session' ∧
          ∀ r, calls.Bring path r →
            (session'.ledger.Holds r ↔ uri ≠ filed ∧ session.ledger.Holds r) := by
  have hnamed := hpath.toPath_fileUri (.inl rfl)
  rw [List.append_nil] at hnamed
  refine ⟨_, hpath.ofPath_eq, hnamed, ⟨_, ?_, hpath.toPath_fileUri (.inr rfl)⟩, ?_⟩
  · intro hsame
    have hlength := congrArg List.length (String.ofList_injective hsame)
    simp at hlength
  · intro s session calls hs hledger uri
    have hkeyed : session.ledger.Keyed := hledger ▸ Ledger.Keyed.empty.submitAll calls
    refine ⟨_, session_closeDocument hs uri, ?_⟩
    rintro r ⟨call, _, hbrings⟩
    have huri := hpath.ofPath_eq.symm.trans hbrings.ofPath_eq
    rw [Except.ok.injEq] at huri
    rw [huri]
    exact hkeyed.holds_close_iff session.publisher uri r

/-- A line about a file with brackets in its name, which are escaped in its uri. -/
def bracketCalls : Calls := [(.accepting, .line "error:/ws/a(1).dps|1-0|bad")]

/-- The record of the line. -/
def bracketRecord : Record :=
  { uri := "file:///ws/a%281%29.dps", line := 0, column := 0, message := "bad" }

/-- A session that has taken the line. -/
def bracketSession : Session where
  settings := .default
  documents := .given [] []
  publisher := .accepting
  ledger := Ledger.submitAll {} bracketCalls

theorem bracketPath_isFilePath : Uri.IsFilePath "/ws/a(1).dps".toList :=
  ⟨by decide +kernel, by decide +kernel, by decide +kernel⟩

theorem bracketCalls_bring : bracketCalls.Bring "/ws/a(1).dps" bracketRecord := by
  refine ⟨_, List.mem_singleton_self _, ?_⟩
  exact .line (f := ⟨"/ws/a(1).dps", 1, 0, "bad"⟩) (by decide +kernel) rfl (by decide +kernel)

theorem bracketSession_holds : bracketSession.ledger.Holds bracketRecord :=
  ⟨bracketRecord.uri, .inl (by decide +kernel)⟩

/-- Closing the document under the uri of its path forgets the record. -/
theorem State.closeDocument_forgets_bracketRecord :
    Uri.IsFilePath "/ws/a(1).dps".toList ∧ bracketCalls.Bring "/ws/a(1).dps" bracketRecord ∧
    bracketSession.ledger.Holds bracketRecord ∧
    ∃ session', (State.closeDocument { session := some bracketSession }
        "file:///ws/a%281%29.dps").1.session = some session' ∧
      ¬session'.ledger.Holds bracketRecord := by
  obtain ⟨filed, hfiled, _, _, hclose⟩ := closeDocument_forgets_iff bracketPath_isFilePath
  have huri : filed = "file:///ws/a%281%29.dps" := by
    obtain ⟨_, _, hbrings⟩ := bracketCalls_bring
    exact Except.ok.inj (hfiled.symm.trans hbrings.ofPath_eq)
  obtain ⟨session', hs, hholds⟩ :=
    hclose { session := some bracketSession } _ bracketCalls rfl rfl "file:///ws/a%281%29.dps"
  refine ⟨bracketPath_isFilePath, bracketCalls_bring, bracketSession_holds, session', hs, ?_⟩
  rw [hholds bracketRecord bracketCalls_bring]
  exact fun hheld => hheld.1 huri.symm

/-- Closing it under the uri that leaves the brackets as they are forgets nothing, although that uri
names the file too. -/
theorem State.closeDocument_keeps_bracketRecord :
    ¬∀ (path uri : String) (s : State) (session session' : Session) (calls : Calls) (r : Record),
      Uri.IsFilePath path.toList → Uri.toPath uri = .ok (some path) →
      (∀ call ∈ calls, call.2.isLine ∨ call.2.isReport) → s.session = some session →
      session.ledger = Ledger.submitAll {} calls →
      (s.closeDocument uri).1.session = some session' →
      calls.Bring path r → ¬session'.ledger.Holds r := by
  intro hforgets
  have hkeyed : bracketSession.ledger.Keyed := Ledger.Keyed.empty.submitAll bracketCalls
  refine hforgets "/ws/a(1).dps" "file:///ws/a(1).dps" { session := some bracketSession } _ _
    bracketCalls bracketRecord bracketPath_isFilePath (by decide +kernel) ?_ rfl rfl
    (session_closeDocument rfl _) bracketCalls_bring ?_
  · intro call hcall
    rw [List.mem_singleton.mp hcall]
    exact .inl rfl
  · rw [hkeyed.holds_close_iff]
    exact ⟨by decide, bracketSession_holds⟩

end Machine

end Datapack
