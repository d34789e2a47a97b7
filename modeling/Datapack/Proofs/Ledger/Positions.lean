import Datapack.Proofs.ErrorLineGrammar
import Datapack.Proofs.Ledger.Operations
import Datapack.Server.Outgoing
import Mathlib.Data.List.TakeWhile

/-! Where findings are. No coordinate of a record is negative, and a client accepts the record if and
only if none is too large either: the line and the column of the finding, or, at the end of a
document, the number of its lines and the length of the last one. A record that is not accepted is
refused only after it was kept. -/

namespace Datapack.Diagnostic

open Server

/-! ### Coordinates -/

/-- Whether a client accepts where a record is. -/
def Record.Fits (r : Record) : Prop :=
  (0 ≤ r.line ∧ r.line ≤ maxCoordinate) ∧ 0 ≤ r.column ∧ r.column ≤ maxCoordinate

theorem checkCoordinate_cases (name : String) (n : Int) :
    (0 ≤ n ∧ n ≤ maxCoordinate) ∧ checkCoordinate name n = .ok () ∨
      ¬(0 ≤ n ∧ n ≤ maxCoordinate) ∧
        checkCoordinate name n = .error (.positionOutOfRange name n) := by
  unfold checkCoordinate
  split
  · next h => exact .inl ⟨h, rfl⟩
  · next h => exact .inr ⟨h, rfl⟩

theorem Record.clientPosition_of_fits {r : Record} (h : r.Fits) :
    r.clientPosition = .ok ⟨r.line, r.column⟩ := by
  simp [clientPosition, checkCoordinate, h.1, h.2, bind, Except.bind, pure, Except.pure]

theorem Record.clientPosition_of_not_fits {r : Record} (h : ¬r.Fits) :
    ∃ name n, r.clientPosition = .error (.positionOutOfRange name n) ∧
      (n = r.line ∨ n = r.column) ∧ ¬(0 ≤ n ∧ n ≤ maxCoordinate) := by
  rcases checkCoordinate_cases "line" r.line with ⟨hline, hcheck⟩ | ⟨hline, hcheck⟩
  · rcases checkCoordinate_cases "character" r.column with ⟨hcolumn, _⟩ | ⟨hcolumn, hcheck'⟩
    · exact absurd ⟨hline, hcolumn⟩ h
    · exact ⟨"character", r.column, by simp [clientPosition, hcheck, hcheck', bind, Except.bind],
        .inr rfl, hcolumn⟩
  · exact ⟨"line", r.line, by simp [clientPosition, hcheck, bind, Except.bind], .inl rfl, hline⟩

theorem Publisher.editor_eq_ok_iff {p : Publication} :
    Publisher.editor p = .ok () ↔ ∀ r ∈ p.records, r.Fits := by
  unfold editor
  induction p.records with
  | nil => simp [pure, Except.pure]
  | cons r records ih =>
      rw [List.forM, List.forall_mem_cons]
      by_cases hr : r.Fits
      · rw [Record.clientPosition_of_fits hr]
        simpa [hr, bind, Except.bind, pure, Except.pure] using ih
      · obtain ⟨_, _, hrefused, _⟩ := Record.clientPosition_of_not_fits hr
        simp [hrefused, hr, bind, Except.bind]

/-- A client takes all that a change publishes if and only if all records in it fit. -/
theorem Ledger.isOk_commit_editor_iff {α : Type} {t : Ledger} {c : Change α} :
    (t.commit .editor c).2.2.isOk ↔
      ∀ p ∈ publications c.effects, ∀ r ∈ p.records, r.Fits := by
  simp only [← Publisher.editor_eq_ok_iff]
  refine ⟨fun h => taken_of_publishAll_ok .editor t.store c.effects ?_, fun h => ?_⟩
  · cases hresult : (publishAll .editor t.store c.effects).2.2 with
    | error e =>
        simp only [commit, hresult] at h
        cases h
    | ok _ => rfl
  · rw [commit_of_taken .editor t c h]
    rfl

/-- An operation comes to its end with such a client if and only if it can be carried out and all
records that it publishes fit. -/
theorem Operation.isOk_work_editor_iff (op : Operation) (t : Ledger) :
    ((op.work .editor).run t).2.2.isOk ↔
      (t.perform op).result.isOk ∧ ∀ p ∈ (t.perform op).published, ∀ r ∈ p.records, r.Fits := by
  rw [op.run_work]
  cases hplan : op.plan t with
  | error e =>
      rw [Ledger.perform_of_error hplan]
      exact ⟨nofun, nofun⟩
  | ok c =>
      rw [Ledger.perform_of_ok hplan, Ledger.follow, Ledger.isOk_commit_editor_iff]
      exact ⟨fun h => ⟨rfl, h⟩, fun h => h.2⟩

/-! ### The end of a document -/

theorem count_add_length_takeWhile_le (c : Char) (cs : List Char) :
    cs.count c + (cs.takeWhile (· != c)).length ≤ cs.length := by
  have hnone : (cs.takeWhile (· != c)).count c = 0 := by
    rw [List.count_eq_zero]
    intro hc
    simpa using List.mem_takeWhile_imp hc
  calc cs.count c + (cs.takeWhile (· != c)).length
    _ = (cs.dropWhile (· != c)).count c + (cs.takeWhile (· != c)).length := by
        conv_lhs => rw [← List.takeWhile_append_dropWhile (p := (· != c)) (l := cs)]
        rw [List.count_append, hnone, Nat.zero_add]
        simp
    _ ≤ (cs.dropWhile (· != c)).length + (cs.takeWhile (· != c)).length :=
        Nat.add_le_add_right List.count_le_length _
    _ = cs.length := by rw [Nat.add_comm, ← List.length_append, List.takeWhile_append_dropWhile]

/-- The line feeds before the last character, and the characters since the last of them, are less than
all characters. -/
theorem lastPosition_le (text : List Char) :
    (lastPosition text).line + (lastPosition text).column ≤ (text.length - 1 : Nat) := by
  have hle := count_add_length_takeWhile_le '\n' text.dropLast.reverse
  rw [List.count_reverse, List.length_reverse, List.length_dropLast] at hle
  simp only [lastPosition]
  exact_mod_cast hle

/-! ### Findings -/

theorem positionOf_nonneg (line column : Int) (text : Option String) :
    0 ≤ (positionOf line column text).line ∧ 0 ≤ (positionOf line column text).column := by
  unfold positionOf
  split
  · exact ⟨Int.natCast_nonneg _, Int.natCast_nonneg _⟩
  · exact ⟨Int.le_max_right _ _, Int.le_max_right _ _⟩

/-- Whether a client accepts where a finding is, in a document with this text: neither its line nor
its column is too large, or, at the end, neither the number of line feeds before the last character
nor that of the characters since then. -/
def Finding.Fits (f : Finding) (text : List Char) : Prop :=
  if f.line = endMark then
    text.dropLast.count '\n' ≤ maxCoordinate ∧
      (text.dropLast.reverse.takeWhile (· != '\n')).length ≤ maxCoordinate
  else f.line ≤ maxCoordinate + 1 ∧ f.column ≤ maxCoordinate

theorem Finding.fits_iff {f : Finding} {text : Option String} :
    f.Fits (text.getD "").toList ↔
      (positionOf f.line f.column text).line ≤ maxCoordinate ∧
        (positionOf f.line f.column text).column ≤ maxCoordinate := by
  unfold Fits positionOf
  split
  · rfl
  · simp only [maxCoordinate]
    omega

theorem Finding.fits_of_length_le {f : Finding} (hline : f.line = endMark) {text : List Char}
    (h : text.length ≤ maxCoordinate + 1) : f.Fits text := by
  have hle := lastPosition_le text
  have hnonneg := positionOf_nonneg endMark 0 (some (String.ofList text))
  simp only [positionOf, if_true, Option.getD_some, String.toList_ofList] at hnonneg
  have hposition : (lastPosition text).line ≤ maxCoordinate ∧
      (lastPosition text).column ≤ maxCoordinate := by
    simp only [maxCoordinate] at h ⊢
    omega
  rw [Fits, if_pos hline]
  exact hposition

theorem Ledger.position_of_recordOf {docs : Documents} {files : FileTree} {f : Finding} {r : Record}
    (h : recordOf docs files f = .ok r) :
    ∃ text, (if f.line = endMark then docs.text files r.uri else .ok none) = .ok text ∧
      (⟨r.line, r.column⟩ : Position) = positionOf f.line f.column text := by
  rw [recordOf, bind_eq_ok_iff] at h
  obtain ⟨uri, _, h⟩ := h
  split at h
  · next hline =>
      obtain ⟨text, htext, ⟨⟩⟩ := bind_eq_ok_iff.mp h
      exact ⟨text, by rw [if_pos hline, htext], rfl⟩
  · next hline =>
      cases h
      exact ⟨none, by rw [if_neg hline], rfl⟩

/-- The record of a finding lies nowhere before the start of its document, and a client accepts it at
exactly one place, from which it starts and at which it ends, if and only if the finding fits; at the
end of a document that is not enormous it does. Of what an operation publishes a client takes all if
and only if all records fit. A line that is refused has been streamed and stored before. -/
theorem accepted_iff_fits (docs : Documents) (files : FileTree) :
    (∀ f r, Ledger.recordOf docs files f = .ok r → ∃ text place,
      (if f.line = endMark then docs.text files r.uri else .ok none) = .ok text ∧
      place = positionOf f.line f.column text ∧ 0 ≤ place.line ∧ 0 ≤ place.column ∧
      (f.Fits (text.getD "").toList → r.clientPosition = .ok place) ∧
      (¬f.Fits (text.getD "").toList → ∃ name n,
        r.clientPosition = .error (.positionOutOfRange name n) ∧ maxCoordinate < n) ∧
      (f.line = endMark → (text.getD "").toList.length ≤ maxCoordinate + 1 →
        f.Fits (text.getD "").toList) ∧
      ∃ more, diagnosticJson r = .obj (("range", .obj
        [("start", positionJson place.line place.column),
         ("end", positionJson place.line place.column)]) :: more)) ∧
    (∀ (t : Ledger) (op : Operation), ((op.work .editor).run t).2.2.isOk ↔
      (t.perform op).result.isOk ∧ ∀ p ∈ (t.perform op).published, ∀ r ∈ p.records, r.Fits) ∧
    ∀ (t : Ledger) raw r, lineRecord? docs files raw = some r →
      ((∀ r' ∈ t.stream.get r.uri ++ [r], r'.Fits) →
        ((Ledger.takeLine docs files .editor raw).run t).2.2 = .ok (some r)) ∧
      ((∃ r' ∈ t.stream.get r.uri ++ [r], ¬r'.Fits) → ∃ fault,
        (Ledger.takeLine docs files .editor raw).run t =
          (⟨t.store.note ⟨r.uri, t.stream.get r.uri ++ [r]⟩, t.stream.append r⟩, [],
            .error fault)) := by
  refine ⟨fun f r hrecord => ?_, fun t op => op.isOk_work_editor_iff t, fun t raw r hline => ?_⟩
  · obtain ⟨text, htext, hplace⟩ := Ledger.position_of_recordOf hrecord
    obtain ⟨hline, hcolumn⟩ := positionOf_nonneg f.line f.column text
    have hfits : r.Fits ↔ f.Fits (text.getD "").toList := by
      rw [Finding.fits_iff, ← hplace]
      rw [← hplace] at hline hcolumn
      simp [Record.Fits, hline, hcolumn]
    refine ⟨text, _, htext, rfl, hline, hcolumn, fun h => ?_, fun h => ?_,
      fun hend h => Finding.fits_of_length_le hend h, ?_⟩
    · rw [← hplace]
      exact Record.clientPosition_of_fits (hfits.mpr h)
    · obtain ⟨name, n, hrefused, hn, hrange⟩ := Record.clientPosition_of_not_fits (mt hfits.mp h)
      have hpos : 0 ≤ n := by
        rw [← hplace] at hline hcolumn
        exact hn.elim (· ▸ hline) (· ▸ hcolumn)
      exact ⟨name, n, hrefused, Int.not_le.mp fun hle => hrange ⟨hpos, hle⟩⟩
    · rw [← hplace]
      exact ⟨_, rfl⟩
  · rcases t.linePlan_cases docs files raw with ⟨hnone, _⟩ | ⟨r', hsome, htake⟩
    · rw [hnone] at hline
      cases hline
    · rw [hsome] at hline
      cases hline
      have hstreamed : (t.stream.append r).get r.uri = t.stream.get r.uri ++ [r] := by
        simp [Stream.get_append]
      rw [hstreamed] at htake
      rw [Ledger.run_takeLine, htake, Ledger.follow]
      refine ⟨fun hall => ?_, fun hbad => ?_⟩
      · have htaken : Publisher.editor ⟨r.uri, t.stream.get r.uri ++ [r]⟩ = .ok () :=
          Publisher.editor_eq_ok_iff.mpr hall
        rw [Ledger.commit_of_taken .editor t _ (by simpa using htaken)]
      · obtain ⟨r', hr', hbad⟩ := hbad
        cases hpublish : Publisher.editor ⟨r.uri, t.stream.get r.uri ++ [r]⟩ with
        | ok _ => exact absurd (Publisher.editor_eq_ok_iff.mp hpublish r' hr') hbad
        | error fault =>
            refine ⟨fault, ?_⟩
            simp only [Ledger.commit, publishAll, hpublish, Except.map]

/-- An error on the last line that a client accepts, and one on the line after it. -/
def lastFinding : Finding := ⟨"/ws/a.dps", 2147483648, 0, "bad"⟩

def farFinding : Finding := ⟨"/ws/a.dps", 2147483649, 0, "bad"⟩

def recordAt (line : Int) : Record := ⟨"file:///ws/a.dps", line, 0, "bad", .error, sourceName⟩

theorem lastFinding_accepted_farFinding_kept :
    (Ledger.recordOf (.given [] []) {} lastFinding = .ok (recordAt 2147483647) ∧
      lastFinding.Fits [] ∧ (recordAt 2147483647).clientPosition = .ok ⟨2147483647, 0⟩) ∧
    lineRecord? (.given [] []) {} farFinding.render = some (recordAt 2147483648) ∧
    ¬(recordAt 2147483648).Fits ∧
    ∃ fault, (Ledger.takeLine (.given [] []) {} .editor farFinding.render).run {} =
      (⟨[("file:///ws/a.dps", [recordAt 2147483648])],
        [("file:///ws/a.dps", [recordAt 2147483648])]⟩, [], .error fault) := by
  have hrecord : Ledger.recordOf (.given [] []) {} lastFinding = .ok (recordAt 2147483647) := by
    decide +kernel
  have hlast : lastFinding.Fits [] := by
    rw [Finding.Fits, if_neg (by decide)]
    decide
  have hline : lineRecord? (.given [] []) {} farFinding.render = some (recordAt 2147483648) := by
    decide +kernel
  have hfar : ¬(recordAt 2147483648).Fits := by
    rintro ⟨⟨_, hle⟩, _⟩
    exact absurd hle (by decide)
  obtain ⟨haccepted, _, hkept⟩ := accepted_iff_fits (.given [] []) {}
  refine ⟨⟨hrecord, hlast, ?_⟩, hline, hfar, ?_⟩
  · obtain ⟨text, place, htext, rfl, _, _, hfits, _⟩ := haccepted lastFinding _ hrecord
    cases htext
    exact hfits hlast
  · obtain ⟨_, hrefused⟩ := hkept {} farFinding.render _ hline
    exact hrefused ⟨_, List.mem_append_right _ (List.mem_singleton_self _), hfar⟩

/-- A line of compiler output that tells of an error so far down is read and has a record, and a
client does not accept its position. -/
theorem farFinding_refused :
    readErrorLine "error:/ws/a.dps|2147483649-0|bad" = .ok (some farFinding) ∧
    Ledger.recordOf (.given [] []) {} farFinding = .ok (recordAt 2147483648) ∧
    (recordAt 2147483648).clientPosition = .error (.positionOutOfRange "line" 2147483648) := by
  decide +kernel

end Datapack.Diagnostic
