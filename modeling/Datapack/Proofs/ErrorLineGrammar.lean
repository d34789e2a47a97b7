import Datapack.Proofs.ErrorLines
import Datapack.Proofs.Outcomes
import Mathlib.Data.List.DropRight

/-! The grammar of error lines. A line is read if and only if it is written as a mark and four fields
whose numbers can be read, and the fields are then determined by the line. What is read can be
written, and is read again from the line that reports it. -/

namespace Datapack

namespace Diagnostic

open Text

/-! ### Line ends -/

theorem exists_lineEnd (raw : List Char) :
    ∃ ends, raw = dropLineEnd raw ++ ends ∧ ∀ c ∈ ends, isReturnOrFeed c :=
  ⟨raw.rtakeWhile isReturnOrFeed, List.rdropWhile_append_rtakeWhile.symm,
    fun _ hc => List.mem_rtakeWhile_imp hc⟩

theorem getLast?_dropLineEnd (raw : List Char) :
    (dropLineEnd raw).getLast?.any isReturnOrFeed = false := by
  by_cases hnil : dropLineEnd raw = []
  · simp [hnil]
  · rw [List.getLast?_eq_some_getLast hnil, Option.any_some, Bool.eq_false_iff]
    exact List.rdropWhile_last_not isReturnOrFeed raw hnil

/-! ### Splitting -/

theorem splitFirst_eq_some_iff {mark : Char} {cs front rest : List Char} :
    splitFirst mark cs = some (front, rest) ↔ cs = front ++ mark :: rest ∧ mark ∉ front := by
  constructor
  · intro h
    induction cs generalizing front with
    | nil => cases h
    | cons c cs ih =>
        unfold splitFirst at h
        split at h
        · next hc =>
            cases h
            simp [hc]
        · next hc =>
            obtain ⟨⟨front, rest⟩, hsplit, ⟨⟩⟩ := Option.map_eq_some_iff.mp h
            obtain ⟨rfl, hfront⟩ := ih hsplit
            have hne : mark ≠ c := fun heq => hc heq.symm
            simp [hfront, hne]
  · rintro ⟨rfl, hfront⟩
    exact splitFirst_append hfront rest

theorem splitColumn_eq_some_iff {cs front rest : List Char} :
    splitColumn cs = some (front, rest) ↔
      cs = front ++ '-' :: rest ∧ front ≠ [] ∧ '-' ∉ front.tail := by
  constructor
  · intro h
    cases cs with
    | nil => cases h
    | cons c cs =>
        obtain ⟨⟨front, rest⟩, hsplit, ⟨⟩⟩ := Option.map_eq_some_iff.mp h
        obtain ⟨rfl, hfront⟩ := splitFirst_eq_some_iff.mp hsplit
        exact ⟨rfl, List.cons_ne_nil c front, hfront⟩
  · rintro ⟨rfl, hne, hfront⟩
    obtain ⟨c, front, rfl⟩ := List.exists_cons_of_ne_nil hne
    exact splitColumn_append hfront rest

/-! ### Fields -/

/-- How four fields are written in an error line. -/
structure Fields.Spell (f : Fields) (text : List Char) : Prop where
  whole : text = errorMark ++ (f.file ++ '|' :: (f.line ++ '-' :: (f.column ++ '|' :: f.message)))
  file : '|' ∉ f.file
  line : f.line ≠ []
  /-- Only the first character may be a dash. -/
  sign : '-' ∉ f.line.tail
  column : '|' ∉ f.column

/-- What four fields tell, if their numbers can be read. -/
structure Fields.Tell (fields : Fields) (f : Finding) : Prop where
  file : f.file.toList = fields.file
  line : parseInteger fields.line = .ok f.line
  column : parseInteger fields.column = .ok f.column
  message : f.message.toList = fields.message

theorem Fields.split_eq_ok_iff {text body : List Char} {f : Fields} :
    Fields.split text body = .ok f ↔ f.Spell (errorMark ++ body) := by
  constructor
  · intro h
    unfold Fields.split at h
    split at h
    · cases h
    · next file rest hfile =>
        split at h
        · cases h
        · next line rest' hline =>
            split at h
            · cases h
            · next column message hcolumn =>
                cases h
                obtain ⟨rfl, hbar⟩ := splitFirst_eq_some_iff.mp hfile
                obtain ⟨rfl, hsome, hsign⟩ := splitColumn_eq_some_iff.mp hline
                obtain ⟨rfl, hbar'⟩ := splitFirst_eq_some_iff.mp hcolumn
                exact ⟨rfl, hbar, hsome, hsign, hbar'⟩
  · rintro ⟨hwhole, hfile, hline, hsign, hcolumn⟩
    have hcut := splitColumn_eq_some_iff.mpr
      ⟨rfl (a := f.line ++ '-' :: (f.column ++ '|' :: f.message)), hline, hsign⟩
    simp only [Fields.split, List.append_cancel_left hwhole, splitFirst_append hfile, hcut,
      splitFirst_append hcolumn]

/-- The fields are determined by the line. -/
theorem Fields.Spell.unique {text : List Char} {f f' : Fields} (h : f.Spell text)
    (h' : f'.Spell text) : f = f' := by
  have hsplit : Fields.split text _ = .ok f := Fields.split_eq_ok_iff.mpr (h.whole ▸ h)
  have hsplit' : Fields.split text _ = .ok f' := Fields.split_eq_ok_iff.mpr (h.whole ▸ h')
  exact Except.ok.inj (hsplit.symm.trans hsplit')

theorem readNumber_eq_ok_iff {cs : List Char} {n : Int} :
    readNumber cs = .ok n ↔ parseInteger cs = .ok n := by
  unfold readNumber
  cases parseInteger cs <;> simp [Except.mapError]

theorem Fields.read_eq_ok_iff {fields : Fields} {f : Finding} :
    fields.read = .ok f ↔ fields.Tell f := by
  simp only [read, bind_eq_ok_iff, readNumber_eq_ok_iff]
  constructor
  · rintro ⟨line, hline, column, hcolumn, ⟨⟩⟩
    exact ⟨String.toList_ofList, hline, hcolumn, String.toList_ofList⟩
  · rintro ⟨hfile, hline, hcolumn, hmessage⟩
    refine ⟨f.line, hline, f.column, hcolumn, ?_⟩
    rw [← hfile, ← hmessage, String.ofList_toList, String.ofList_toList]
    rfl

/-- A number that can be read holds no bar. -/
theorem Fields.Tell.bar_not_mem_line {fields : Fields} {f : Finding} (h : fields.Tell f) :
    '|' ∉ fields.line := by
  intro hbar
  rcases written_of_parseInteger h.line hbar with hc | hc | hc | hc
  · exact absurd hc (by decide)
  · exact absurd hc (by decide)
  · exact absurd hc (by decide)
  · exact absurd hc (by decide)

/-! ### Lines -/

theorem Fields.kind_of_split {text body : List Char} {fault : Fault}
    (h : Fields.split text body = .error fault) : fault.kind = "ValueError" := by
  unfold Fields.split at h
  split at h
  · cases h; rfl
  · split at h
    · cases h; rfl
    · split at h
      · cases h; rfl
      · cases h

theorem kind_of_readNumber {cs : List Char} {fault : Fault} (h : readNumber cs = .error fault) :
    fault.kind = "ValueError" := by
  unfold readNumber at h
  cases hnumber : parseInteger cs with
  | ok n => rw [hnumber] at h; cases h
  | error e => rw [hnumber] at h; cases h; rfl

theorem Fields.kind_of_read {fields : Fields} {fault : Fault} (h : fields.read = .error fault) :
    fault.kind = "ValueError" := by
  refine of_bind_eq_error (p := (·.kind = "ValueError")) h (fun _ => kind_of_readNumber) ?_
  intro line fault h
  exact of_bind_eq_error (p := (·.kind = "ValueError")) h (fun _ => kind_of_readNumber) nofun

section

variable {raw : List Char}

theorem readErrorChars_of_not_mark (h : ¬errorMark <+: dropLineEnd raw) :
    readErrorChars raw = .ok none := by
  unfold readErrorChars
  rw [if_neg (by simpa using h)]

theorem readErrorChars_of_mark {body : List Char} (h : dropLineEnd raw = errorMark ++ body) :
    readErrorChars raw =
      Fields.split (errorMark ++ body) body >>= fun fields =>
        fields.read >>= fun f => .ok (some f) := by
  have hmark : errorMark.isPrefixOf (errorMark ++ body) := by simp
  simp only [readErrorChars, h, hmark, if_true, List.drop_left]
  cases Fields.split (errorMark ++ body) body with
  | error e => rfl
  | ok fields => cases hread : fields.read <;> simp [hread, Except.map, bind, Except.bind]

theorem readErrorChars_eq_some_iff {f : Finding} :
    readErrorChars raw = .ok (some f) ↔
      ∃ fields : Fields, fields.Spell (dropLineEnd raw) ∧ fields.Tell f := by
  by_cases hmark : errorMark <+: dropLineEnd raw
  · obtain ⟨body, hbody⟩ := hmark
    rw [readErrorChars_of_mark hbody.symm, ← hbody]
    simp only [bind_eq_ok_iff, Fields.split_eq_ok_iff, Fields.read_eq_ok_iff, Except.ok.injEq,
      Option.some.injEq, exists_eq_right]
  · rw [readErrorChars_of_not_mark hmark]
    refine ⟨nofun, ?_⟩
    rintro ⟨fields, hspell, _⟩
    exact absurd ⟨_, hspell.whole.symm⟩ hmark

theorem readErrorChars_eq_none_iff :
    readErrorChars raw = .ok none ↔ ¬errorMark <+: dropLineEnd raw := by
  refine ⟨?_, readErrorChars_of_not_mark⟩
  rintro h ⟨body, hbody⟩
  rw [readErrorChars_of_mark hbody.symm] at h
  simp [bind_eq_ok_iff] at h

theorem kind_of_readErrorChars {fault : Fault} (h : readErrorChars raw = .error fault) :
    fault.kind = "ValueError" := by
  by_cases hmark : errorMark <+: dropLineEnd raw
  · obtain ⟨body, hbody⟩ := hmark
    rw [readErrorChars_of_mark hbody.symm] at h
    refine of_bind_eq_error (p := (·.kind = "ValueError")) h (fun _ => Fields.kind_of_split) ?_
    intro fields fault h
    exact of_bind_eq_error (p := (·.kind = "ValueError")) h (fun _ => Fields.kind_of_read) nofun
  · rw [readErrorChars_of_not_mark hmark] at h
    cases h

end

/-! ### The grammar -/

/-- What follows the mark of an error line is read if and only if four fields are written in it, of
which the numbers can be read; they are determined by the line, and no bar is in the first number.
A line without the mark is none, and every other one has the wrong shape or a number that is none. -/
theorem readErrorLine_iff_spelled (raw : String) :
    let text := dropLineEnd raw.toList
    (∃ ends, raw.toList = text ++ ends ∧ (∀ c ∈ ends, isReturnOrFeed c) ∧
      text.getLast?.any isReturnOrFeed = false) ∧
    (readErrorLine raw = .ok none ↔ ¬errorMark <+: text) ∧
    (∀ f, readErrorLine raw = .ok (some f) ↔
      ∃ fields : Fields, fields.Spell text ∧ fields.Tell f) ∧
    (∀ fields fields' : Fields, fields.Spell text → fields'.Spell text → fields = fields') ∧
    (∀ (fields : Fields) f, fields.Spell text → fields.Tell f → '|' ∉ fields.line) ∧
    (errorMark <+: text → (∀ (fields : Fields) f, fields.Spell text → ¬fields.Tell f) →
      ∃ fault, readErrorLine raw = .error fault ∧ fault.kind = "ValueError") := by
  intro text
  obtain ⟨ends, hsplit, hends⟩ := exists_lineEnd raw.toList
  refine ⟨⟨ends, hsplit, hends, getLast?_dropLineEnd raw.toList⟩, readErrorChars_eq_none_iff,
    fun _ => readErrorChars_eq_some_iff, fun _ _ h h' => h.unique h',
    fun _ _ _ h => h.bar_not_mem_line, fun hmark hnone => ?_⟩
  cases hread : readErrorLine raw with
  | error fault => exact ⟨fault, rfl, kind_of_readErrorChars hread⟩
  | ok found =>
      cases found with
      | none => exact absurd hmark (readErrorChars_eq_none_iff.mp hread)
      | some f =>
          obtain ⟨fields, hspell, htell⟩ := readErrorChars_eq_some_iff.mp hread
          exact absurd htell (hnone fields f hspell)

/-- A line with dashes in a file name, in front of a number and in the message, where a bar is too. -/
def signedLine : String := "error:a-b.dps|-1-+0_7|x|y-z\r\n"

def signedFields : Fields := ⟨"a-b.dps".toList, "-1".toList, "+0_7".toList, "x|y-z".toList⟩

def signedFinding : Finding := ⟨"a-b.dps", -1, 7, "x|y-z"⟩

/-- A line whose second number holds a dash. -/
def dashedLine : String := "error:a|1-2-3|m"

theorem signedLine_read_dashedLine_refused :
    signedFields.Spell (dropLineEnd signedLine.toList) ∧ signedFields.Tell signedFinding ∧
    readErrorLine signedLine = .ok (some signedFinding) ∧ '|' ∉ signedFields.line ∧
    errorMark <+: dropLineEnd dashedLine.toList ∧
    (∀ (fields : Fields) f, fields.Spell (dropLineEnd dashedLine.toList) → ¬fields.Tell f) ∧
    ∃ fault, readErrorLine dashedLine = .error fault ∧ fault.kind = "ValueError" := by
  have hspell : signedFields.Spell (dropLineEnd signedLine.toList) :=
    ⟨by decide +kernel, by decide, by decide, by decide, by decide⟩
  have htell : signedFields.Tell signedFinding := ⟨rfl, rfl, rfl, rfl⟩
  have hdashed :
      Fields.Spell ⟨['a'], ['1'], ['2', '-', '3'], ['m']⟩ (dropLineEnd dashedLine.toList) :=
    ⟨by decide +kernel, by decide, by decide, by decide, by decide⟩
  obtain ⟨_, _, hread, _, hbar, _⟩ := readErrorLine_iff_spelled signedLine
  obtain ⟨_, _, _, hunique, _, hrefused⟩ := readErrorLine_iff_spelled dashedLine
  have hmark : errorMark <+: dropLineEnd dashedLine.toList := ⟨_, hdashed.whole.symm⟩
  have hnone (fields : Fields) (f : Finding) (h : fields.Spell (dropLineEnd dashedLine.toList)) :
      ¬fields.Tell f := by
    intro hf
    have hcolumn := hf.column
    rw [hunique fields _ h hdashed] at hcolumn
    cases hcolumn
  exact ⟨hspell, htell, (hread signedFinding).mpr ⟨signedFields, hspell, htell⟩,
    hbar signedFields signedFinding hspell htell, hmark, hnone, hrefused hmark hnone⟩

/-! ### Written and read -/

/-- What a line spells can be written. -/
theorem Fields.Spell.writable {raw : List Char} {fields : Fields} {f : Finding}
    (hspell : fields.Spell (dropLineEnd raw)) (htell : fields.Tell f) : f.Writable := by
  refine ⟨?_, digitCount_le_of_parseInteger htell.line,
    digitCount_le_of_parseInteger htell.column, ?_⟩
  · rw [htell.file]
    exact hspell.file
  · have hlast := getLast?_dropLineEnd raw
    have hend : dropLineEnd raw = (errorMark ++ fields.file ++ '|' :: fields.line ++
        '-' :: fields.column) ++ '|' :: fields.message := by
      rw [hspell.whole]
      simp only [List.append_assoc, List.cons_append]
    rw [hend, List.getLast?_append, List.getLast?_cons, Option.some_or] at hlast
    rw [htell.message]
    cases hmessage : fields.message.getLast? with
    | none => rfl
    | some c => simpa [hmessage] using hlast

/-- A finding that can be written is read from the line that reports it, with any line ends behind
it; and all that is read can be written, so it is read again from its own line. -/
theorem rendered_line_read_back :
    (∀ f : Finding, f.Writable → ∀ ends : String, (∀ c ∈ ends.toList, isReturnOrFeed c) →
      readErrorLine (f.render ++ ends) = .ok (some f)) ∧
    ∀ raw f, readErrorLine raw = .ok (some f) →
      f.Writable ∧ readErrorLine f.render = .ok (some f) := by
  refine ⟨fun f hf ends hends => ?_, fun raw f hread => ?_⟩
  · rw [readErrorLine, String.toList_append]
    exact hf.readErrorChars_render hends
  · obtain ⟨fields, hspell, htell⟩ := readErrorChars_eq_some_iff.mp hread
    have hf := hspell.writable htell
    exact ⟨hf, hf.readErrorLine_render⟩

/-- Both numbers are negative, and the separators are in the texts too. -/
def negativeFinding : Finding := ⟨"a-b.dps", -12, -7, "x|y-z"⟩

theorem negativeFinding_read_back :
    negativeFinding.Writable ∧ (∀ c ∈ "\r\n\n".toList, isReturnOrFeed c) ∧
    readErrorLine (negativeFinding.render ++ "\r\n\n") = .ok (some negativeFinding) ∧
    readErrorLine signedLine = .ok (some signedFinding) ∧ signedFinding.Writable ∧
    readErrorLine signedFinding.render = .ok (some signedFinding) := by
  have hwritable : negativeFinding.Writable := by decide +kernel
  have hends : ∀ c ∈ "\r\n\n".toList, isReturnOrFeed c := List.all_eq_true.mp (by decide +kernel)
  have hread : readErrorLine signedLine = .ok (some signedFinding) := by decide +kernel
  obtain ⟨hback, hagain⟩ := rendered_line_read_back
  exact ⟨hwritable, hends, hback negativeFinding hwritable _ hends, hread,
    hagain signedLine signedFinding hread⟩

end Diagnostic

end Datapack
