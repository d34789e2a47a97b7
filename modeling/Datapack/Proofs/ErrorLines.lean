import Datapack.Diagnostic.ErrorLine
import Datapack.Proofs.Text.Integers

/-! Error lines are read back: the line that reports a finding gives this finding, with any line ends
behind it. -/

namespace Datapack.Diagnostic

open Text

/-! ### Splitting -/

theorem splitFirst_append {mark : Char} {front : List Char} (h : mark ∉ front) (rest : List Char) :
    splitFirst mark (front ++ mark :: rest) = some (front, rest) := by
  induction front with
  | nil => simp [splitFirst]
  | cons c front ih =>
      obtain ⟨hc, hfront⟩ := not_or.mp (List.mem_cons.not.mp h)
      have hne : ¬c = mark := fun heq => hc heq.symm
      simp [splitFirst, hne, ih hfront]

theorem splitColumn_append {c : Char} {front : List Char} (h : '-' ∉ front) (rest : List Char) :
    splitColumn (c :: front ++ '-' :: rest) = some (c :: front, rest) := by
  simp [splitColumn, splitFirst_append h]

theorem dropLineEnd_append {text ends : List Char} (hends : ∀ c ∈ ends, isReturnOrFeed c)
    (htext : ∀ c, text.getLast? = some c → isReturnOrFeed c = false) :
    dropLineEnd (text ++ ends) = text := by
  have hback : (ends.reverse ++ text.reverse).dropWhile isReturnOrFeed = text.reverse := by
    rw [List.dropWhile_append_of_pos (by simpa using hends), List.dropWhile_eq_self_iff]
    intro hlength
    have hlast : text.getLast? = some text.reverse[0] := by
      rw [← List.head?_reverse, List.head?_eq_getElem?, List.getElem?_eq_getElem hlength]
    rw [htext _ hlast]
    exact Bool.false_ne_true
  rw [dropLineEnd, dropEndWhile, List.reverse_append, hback, List.reverse_reverse]

/-! ### Numbers in a line -/

theorem not_mem_digits (mark : Char) (hmark : mark.isDigit = false) (n : Nat) :
    mark ∉ Nat.toDigits 10 n := by
  intro hmem
  exact ne_of_isDigit (Nat.isDigit_of_mem_toDigits (by decide) (by decide) hmem) hmark rfl

/-- The dash behind a number is the first one after the first character, which may be a sign. -/
theorem splitColumn_number (n : Int) (rest : List Char) :
    splitColumn ((toString n).toList ++ '-' :: rest) = some ((toString n).toList, rest) := by
  rw [toList_toString_int]
  have hdigits := not_mem_digits '-' (by decide) n.natAbs
  split
  · rw [List.nil_append]
    cases hn : Nat.toDigits 10 n.natAbs with
    | nil => exact absurd hn Nat.toDigits_ne_nil
    | cons c cs =>
        rw [hn, List.mem_cons, not_or] at hdigits
        exact splitColumn_append hdigits.2 rest
  · exact splitColumn_append hdigits rest

theorem bar_not_mem_number (n : Int) : '|' ∉ (toString n).toList := by
  rw [toList_toString_int]
  have hdigits := not_mem_digits '|' (by decide) n.natAbs
  split <;> simp [hdigits]

/-! ### Whole lines -/

/-- What the line of a finding can carry: a file name without a bar, numbers that are not too long,
and a message that does not end like a line. -/
structure Finding.Writable (f : Finding) : Prop where
  file : '|' ∉ f.file.toList
  line : digitCount f.line ≤ maxIntegerDigits
  column : digitCount f.column ≤ maxIntegerDigits
  message : f.message.toList.getLast?.any isReturnOrFeed = false

instance (f : Finding) : Decidable f.Writable :=
  decidable_of_iff
    ('|' ∉ f.file.toList ∧ digitCount f.line ≤ maxIntegerDigits ∧
      digitCount f.column ≤ maxIntegerDigits ∧
      f.message.toList.getLast?.any isReturnOrFeed = false)
    ⟨fun ⟨hf, hl, hc, hm⟩ => ⟨hf, hl, hc, hm⟩, fun ⟨hf, hl, hc, hm⟩ => ⟨hf, hl, hc, hm⟩⟩

theorem Finding.toList_render (f : Finding) :
    f.render.toList = errorMark ++ (f.file.toList ++ '|' :: ((toString f.line).toList ++
      '-' :: ((toString f.column).toList ++ '|' :: f.message.toList))) := by
  delta render errorMark
  simp only [String.toList_append, List.append_assoc]
  rfl

/-- The fields of a finding, as its line carries them. -/
def Finding.fields (f : Finding) : Fields :=
  ⟨f.file.toList, (toString f.line).toList, (toString f.column).toList, f.message.toList⟩

theorem Finding.Writable.split_eq {f : Finding} (h : f.Writable) (text : List Char) :
    Fields.split text (f.file.toList ++ '|' :: ((toString f.line).toList ++
      '-' :: ((toString f.column).toList ++ '|' :: f.message.toList))) = .ok f.fields := by
  simp only [Fields.split, splitFirst_append h.file, splitColumn_number,
    splitFirst_append (bar_not_mem_number f.column), Finding.fields]

theorem Finding.Writable.read_fields {f : Finding} (h : f.Writable) : f.fields.read = .ok f := by
  simp only [Fields.read, Finding.fields, readNumber, parseInteger_toString h.line,
    parseInteger_toString h.column, Except.mapError, bind, Except.bind, pure, Except.pure,
    String.ofList_toList]

/-- The line of a finding is read back, whatever line ends follow it. -/
theorem Finding.Writable.readErrorChars_render {f : Finding} (h : f.Writable) {ends : List Char}
    (hends : ∀ c ∈ ends, isReturnOrFeed c) :
    readErrorChars (f.render.toList ++ ends) = .ok (some f) := by
  have hlast : ∀ c, f.render.toList.getLast? = some c → isReturnOrFeed c = false := by
    intro c hc
    have hsplit : f.render.toList = (errorMark ++ f.file.toList ++ '|' :: (toString f.line).toList ++
        '-' :: (toString f.column).toList) ++ '|' :: f.message.toList := by
      rw [f.toList_render]
      simp only [List.append_assoc, List.cons_append]
    rw [hsplit, List.getLast?_append, List.getLast?_cons, Option.some_or] at hc
    cases hmessage : f.message.toList.getLast? with
    | some d =>
        have hd := h.message
        rw [hmessage] at hc hd
        rw [← Option.some.inj hc]
        exact hd
    | none =>
        rw [hmessage] at hc
        rw [← Option.some.inj hc]
        decide
  have hmark : errorMark.isPrefixOf f.render.toList := by
    rw [f.toList_render]
    simp
  have hbody : f.render.toList.drop errorMark.length = f.file.toList ++ '|' ::
      ((toString f.line).toList ++ '-' :: ((toString f.column).toList ++ '|' :: f.message.toList)) := by
    rw [f.toList_render, List.drop_left]
  simp only [readErrorChars, dropLineEnd_append hends hlast, hmark, if_true, hbody, h.split_eq,
    h.read_fields, Except.map]

theorem Finding.Writable.readErrorLine_render {f : Finding} (h : f.Writable) :
    readErrorLine f.render = .ok (some f) := by
  have hread : readErrorChars (f.render.toList ++ []) = .ok (some f) :=
    h.readErrorChars_render (by simp)
  rwa [List.append_nil] at hread

end Datapack.Diagnostic
