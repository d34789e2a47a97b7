import Datapack.Proofs.Machine.Readings
import Datapack.Proofs.Machine.Saves
import Mathlib.Data.List.DropRight
import Mathlib.Data.List.Forall2

/-! The lines of a stream, and what a reader takes for lines. A line that is too long is dropped, but
where it is dropped before its end has come, the rest of it counts as a new line. -/

namespace Datapack.Machine

open Text

/-! ### Lines -/

/-- The lines of a stream with their line feeds; the last one may have none. -/
def lines : Bytes → List Bytes
  | [] => []
  | b :: rest =>
    if b = Pipe.lineFeed then [b] :: lines rest
    else
      match lines rest with
      | [] => [[b]]
      | line :: later => (b :: line) :: later

/-- What comes before the first line feed. -/
def content (stream : Bytes) : Bytes := stream.takeWhile (· != Pipe.lineFeed)

/-- What comes after the last line feed. -/
def unfinished (stream : Bytes) : Bytes := stream.rtakeWhile (· != Pipe.lineFeed)

/-- The text that is handed over for a line. -/
def shown (line : Bytes) : String := String.ofList (decodeLossy line)

/-- What is handed over of a stream if it is nothing but whole lines: all that are not too long. -/
def wholeLines (limit : Nat) (stream : Bytes) : List String :=
  ((lines stream).filter fun line => (content line).length ≤ limit).map shown

section

variable {front : Bytes} (hone : Pipe.lineFeed ∉ front)

include hone

theorem content_append (rest : Bytes) : content (front ++ rest) = front ++ content rest := by
  refine List.takeWhile_append_of_pos fun b hb => ?_
  simpa using ne_of_mem_of_not_mem hb hone

theorem content_eq_self : content front = front := by
  simpa [content] using content_append hone []

theorem content_ended (rest : Bytes) : content (front ++ Pipe.lineFeed :: rest) = front := by
  rw [content_append hone]
  simp [content]

theorem length_le_unfinished (earlier : Bytes) :
    front.length ≤ (unfinished (earlier ++ front)).length := by
  have hrev : Pipe.lineFeed ∉ front.reverse := by simpa using hone
  have hkept := content_append hrev earlier.reverse
  rw [content] at hkept
  rw [unfinished, List.rtakeWhile, List.reverse_append, hkept]
  simp

theorem lines_append {rest line : Bytes} {later : List Bytes} (h : lines rest = line :: later) :
    lines (front ++ rest) = (front ++ line) :: later := by
  induction front with
  | nil => exact h
  | cons b front ih =>
      rw [List.mem_cons, not_or] at hone
      obtain ⟨hb, hfront⟩ := hone
      rw [List.cons_append, lines, if_neg (Ne.symm hb), ih hfront]
      rfl

theorem lines_ended (rest : Bytes) :
    lines (front ++ Pipe.lineFeed :: rest) = (front ++ [Pipe.lineFeed]) :: lines rest :=
  lines_append hone (by simp [lines])

theorem lines_unended (hsome : front ≠ []) : lines front = [front] := by
  obtain ⟨init, b, rfl⟩ := (List.eq_nil_or_concat' front).resolve_left hsome
  rw [List.mem_append, List.mem_singleton, not_or] at hone
  exact lines_append hone.1 (by simp [lines, Ne.symm hone.2])

end

theorem exists_line {stream : Bytes} (hsome : stream ≠ []) :
    ∃ line later, lines stream = line :: later ∧ content line = content stream := by
  by_cases hone : Pipe.lineFeed ∈ stream
  · obtain ⟨front, rest, rfl, hfront⟩ := List.eq_append_cons_of_mem hone
    exact ⟨_, _, lines_ended hfront rest, by rw [content_ended hfront, content_ended hfront]⟩
  · exact ⟨_, _, lines_unended hone hsome, rfl⟩

section

variable {limit : Nat} {front : Bytes} (hone : Pipe.lineFeed ∉ front)

include hone

theorem wholeLines_ended (rest : Bytes) :
    wholeLines limit (front ++ Pipe.lineFeed :: rest) =
      (if front.length ≤ limit then [shown (front ++ [Pipe.lineFeed])] else []) ++
        wholeLines limit rest := by
  rw [wholeLines, lines_ended hone, List.filter_cons, content_ended hone]
  by_cases hshort : front.length ≤ limit <;> simp [hshort, wholeLines]

theorem wholeLines_unended (hsome : front ≠ []) (hshort : front.length ≤ limit) :
    wholeLines limit front = [shown front] := by
  simp [wholeLines, lines_unended hone hsome, content_eq_self hone, hshort]

end

/-! ### What is taken of a stream -/

/-- Whether something comes that counts as a line that is not too long. -/
def beginsShort (limit : Nat) (rest : Bytes) : Bool :=
  rest ≠ [] && (content rest).length ≤ limit

/-- A text that is handed over for a line: the whole line or the end of it. -/
def EndOf (limit : Nat) (text : String) (line : Bytes) : Prop :=
  ∃ tail, tail ≠ [] ∧ tail <:+ line ∧ (content tail).length ≤ limit ∧ text = shown tail

/-- How a stream is taken piece by piece, until something is left: the texts that are handed over, and
what was still to come of the stream after each cut. -/
inductive Takes (limit : Nat) : Bytes → List Bytes → List String → Bytes → Prop where
  | stop (left : Bytes) : Takes limit left [] [] left
  | line {front rest left : Bytes} {rests : List Bytes} {texts : List String}
      (one : Pipe.lineFeed ∉ front) (short : front.length ≤ limit)
      (later : Takes limit rest rests texts left) :
      Takes limit (front ++ Pipe.lineFeed :: rest) rests
        (shown (front ++ [Pipe.lineFeed]) :: texts) left
  | drop {front rest left : Bytes} {rests : List Bytes} {texts : List String}
      (one : Pipe.lineFeed ∉ front) (long : limit < front.length)
      (later : Takes limit rest rests texts left) :
      Takes limit (front ++ Pipe.lineFeed :: rest) rests texts left
  | cut {front rest left : Bytes} {rests : List Bytes} {texts : List String}
      (one : Pipe.lineFeed ∉ front) (long : limit < front.length)
      (later : Takes limit rest rests texts left) :
      Takes limit (front ++ rest) (rest :: rests) texts left
  | last {front : Bytes} (one : Pipe.lineFeed ∉ front) (some : front ≠ [])
      (short : front.length ≤ limit) : Takes limit front [] [shown front] []

/-- A cut takes away a line that is too long. If what comes after it counts as a short line, that is
one line more. -/
theorem wholeLines_cut {limit : Nat} {front : Bytes} (hone : Pipe.lineFeed ∉ front)
    (hlong : limit < front.length) (rest : Bytes) :
    ∃ extra, wholeLines limit rest = extra ++ wholeLines limit (front ++ rest) ∧
      extra.length = if beginsShort limit rest then 1 else 0 := by
  by_cases hrest : rest = []
  · subst hrest
    have hfront : front ≠ [] := List.ne_nil_of_length_pos (Nat.zero_lt_of_lt hlong)
    refine ⟨[], ?_, rfl⟩
    simp [wholeLines, lines, lines_unended hone hfront, content_eq_self hone, hlong]
  · obtain ⟨line, later, hlines, hcontent⟩ := exists_line hrest
    have hlong : ¬(front ++ content line).length ≤ limit := by
      rw [List.length_append]
      omega
    have hwhole : wholeLines limit (front ++ rest) =
        (later.filter fun line => (content line).length ≤ limit).map shown := by
      rw [wholeLines, lines_append hone hlines, List.filter_cons, content_append hone,
        if_neg (by simpa using hlong)]
    rw [hwhole, wholeLines, hlines, List.filter_cons, hcontent]
    by_cases hshort : (content rest).length ≤ limit
    · exact ⟨[shown line], by simp [hshort], by simp [beginsShort, hrest, hshort]⟩
    · exact ⟨[], by simp [hshort], by simp [beginsShort, hshort]⟩

namespace Takes

variable {limit : Nat} {stream left : Bytes} {rests : List Bytes} {texts : List String}

/-- Every line that is not too long is taken, in order. -/
theorem sublist (h : Takes limit stream rests texts left) :
    (wholeLines limit stream).Sublist (texts ++ wholeLines limit left) := by
  induction h with
  | stop left => exact .refl _
  | line hone hshort _ ih =>
      rw [wholeLines_ended hone, if_pos hshort]
      exact ih.cons_cons _
  | drop hone hlong _ ih =>
      rw [wholeLines_ended hone, if_neg (Nat.not_le_of_lt hlong)]
      exact ih
  | @cut front rest left rests texts hone hlong _ ih =>
      obtain ⟨extra, hrest, _⟩ := wholeLines_cut hone hlong rest
      rw [hrest] at ih
      exact (List.sublist_append_right extra _).trans ih
  | last hone hsome hshort =>
      rw [wholeLines_unended hone hsome hshort]
      exact .refl _

/-- Nothing else is taken but what comes after a cut and is not too long itself. -/
theorem length_eq (h : Takes limit stream rests texts left) :
    (texts ++ wholeLines limit left).length =
      (wholeLines limit stream).length + rests.countP (beginsShort limit) := by
  induction h with
  | stop left => rfl
  | line hone hshort _ ih =>
      rw [wholeLines_ended hone, if_pos hshort, List.cons_append, List.length_cons, ih]
      simp only [List.singleton_append, List.length_cons]
      omega
  | drop hone hlong _ ih =>
      rw [wholeLines_ended hone, if_neg (Nat.not_le_of_lt hlong), ih]
      rfl
  | @cut front rest left rests texts hone hlong _ ih =>
      obtain ⟨extra, hrest, hextra⟩ := wholeLines_cut hone hlong rest
      rw [ih, hrest, List.length_append, hextra, List.countP_cons]
      omega
  | last hone hsome hshort =>
      rw [wholeLines_unended hone hsome hshort]
      rfl

/-- So the lines are taken just as they are if and only if each cut is followed by nothing, or by
something that is too long. -/
theorem eq_iff (h : Takes limit stream rests texts left) :
    texts ++ wholeLines limit left = wholeLines limit stream ↔
      ∀ rest ∈ rests, beginsShort limit rest = false := by
  have hlength := h.length_eq
  have hnone : rests.countP (beginsShort limit) = 0 ↔
      ∀ rest ∈ rests, beginsShort limit rest = false := by
    simp [List.countP_eq_zero]
  rw [← hnone]
  constructor
  · intro heq
    rw [heq] at hlength
    omega
  · intro hzero
    have hsame : (wholeLines limit stream).length = (texts ++ wholeLines limit left).length := by
      omega
    exact (h.sublist.eq_of_length hsame).symm

/-- What is taken for a line ends it, and there is no other text for it. -/
theorem ends (h : Takes limit stream rests texts left) :
    List.SublistForall₂ (EndOf limit) texts (lines stream) := by
  induction h with
  | stop left => exact .nil
  | @line front rest left rests texts hone hshort _ ih =>
      rw [lines_ended hone]
      refine .cons ⟨_, by simp, List.suffix_refl _, ?_, rfl⟩ ih
      rw [content_ended hone]
      exact hshort
  | drop hone hlong _ ih =>
      rw [lines_ended hone]
      exact .cons_right ih
  | @cut front rest left rests texts hone hlong _ ih =>
      by_cases hrest : rest = []
      · subst hrest
        cases ih
        exact .nil
      · obtain ⟨line, later, hlines, _⟩ := exists_line hrest
        rw [lines_append hone hlines]
        rw [hlines] at ih
        cases ih with
        | nil => exact .nil
        | cons hend ih =>
            obtain ⟨tail, hsome, hsuffix, htail⟩ := hend
            exact .cons ⟨tail, hsome, hsuffix.trans (List.suffix_append _ _), htail⟩ ih
        | cons_right ih => exact .cons_right ih
  | last hone hsome hshort =>
      rw [lines_unended hone hsome]
      refine .cons ⟨_, hsome, List.suffix_refl _, ?_, rfl⟩ .nil
      rw [content_eq_self hone]
      exact hshort

end Takes

/-! ### Reading -/

/-- Without a line feed, all that has come is taken at once, or nothing. -/
theorem Pipe.next?_unended {p : Pipe} (hsound : p.broken = false) (hone : lineFeed ∉ p.buffer)
    (limit : Nat) :
    p.next? limit =
      if limit < p.buffer.length then some (.dropped, { p with buffer := [] })
      else if p.ended then
        if p.buffer = [] then some (.finished, p) else some (.line p.buffer, { p with buffer := [] })
      else none := by
  have hall : ∀ b ∈ p.buffer, (b != lineFeed) = true := fun b hb => by
    simpa using ne_of_mem_of_not_mem hb hone
  simp [Pipe.next?, hsound, List.takeWhile_eq_self_iff.mpr hall, List.dropWhile_eq_nil_iff.mpr hall]

/-- A pipe that has ended is read to the end, or something is taken from it. -/
theorem Pipe.next?_of_ended {p : Pipe} (hsound : p.broken = false) (hended : p.ended)
    (limit : Nat) :
    p.buffer = [] ∧ p.next? limit = some (.finished, p) ∨
      ∃ item rest, p.next? limit = some (item, { p with buffer := rest }) ∧
        rest.length < p.buffer.length ∧ Output.Reads.readerAfter item = .reading := by
  by_cases hone : lineFeed ∈ p.buffer
  · right
    obtain ⟨front, rest, hbuffer, hfront⟩ := List.eq_append_cons_of_mem hone
    have hline : p.buffer = (⟨front, hfront⟩ : Line).ended ++ rest := by simp [Line.ended, hbuffer]
    have hnext := Line.next?_ended _ hsound hline limit
    refine ⟨_, rest, hnext, ?_, ?_⟩
    · rw [hbuffer, List.length_append, List.length_cons]
      omega
    · split <;> rfl
  · rw [next?_unended hsound hone]
    by_cases hnil : p.buffer = []
    · left
      simp [hnil, hended]
    · right
      have hpos := List.length_pos_of_ne_nil hnil
      by_cases hlong : limit < p.buffer.length
      · exact ⟨.dropped, [], by simp [hlong], hpos, rfl⟩
      · exact ⟨.line p.buffer, [], by simp [hlong, hended, hnil], hpos, rfl⟩

theorem Pipe.ended_of_next? {limit : Nat} {p p' : Pipe} {item : PipeItem}
    (hnext : p.next? limit = some (item, p')) : p'.ended = p.ended := by
  cases next_of_next? hnext <;> rfl

/-- Whether what has come of a line is too long, before its end has come. -/
def Pipe.overflows (limit : Nat) (p : Pipe) : Bool :=
  !p.broken && lineFeed ∉ p.buffer && limit < p.buffer.length

theorem Takes.of_nil {limit : Nat} {rests : List Bytes} {texts : List String} {left : Bytes}
    (h : Takes limit [] rests texts left) : rests = [] ∧ texts = [] ∧ left = [] := by
  generalize hstream : ([] : Bytes) = stream at h
  cases h with
  | stop => exact ⟨rfl, rfl, rfl⟩
  | line => simp at hstream
  | drop => simp at hstream
  | cut hone hlong =>
      rw [List.nil_eq, List.append_eq_nil_iff] at hstream
      simp [hstream.1] at hlong
  | last hone hsome => exact absurd hstream.symm hsome

/-- Reading takes the next piece from what is to come. -/
theorem Takes.of_next? {limit : Nat} {p p' : Pipe} {item : PipeItem}
    (hnext : p.next? limit = some (item, p')) {coming left : Bytes} {rests : List Bytes}
    {texts : List String} (hcoming : p.ended → coming = [])
    (h : Takes limit (p'.buffer ++ coming) rests texts left) :
    Takes limit (p.buffer ++ coming) ((if p.overflows limit then [coming] else []) ++ rests)
      (Output.Reads.handedBy item ++ texts) left := by
  by_cases hbroken : p.broken
  · simp only [Pipe.next?, hbroken, if_true, Option.some.injEq, Prod.mk.injEq] at hnext
    obtain ⟨rfl, rfl⟩ := hnext
    simpa [Pipe.overflows, hbroken, Output.Reads.handedBy] using h
  have hsound : p.broken = false := by simpa using hbroken
  by_cases hone : Pipe.lineFeed ∈ p.buffer
  · have hwhole : p.overflows limit = false := by simp [Pipe.overflows, hone]
    obtain ⟨front, rest, hbuffer, hfront⟩ := List.eq_append_cons_of_mem hone
    have hline : p.buffer = (⟨front, hfront⟩ : Line).ended ++ rest := by simp [Line.ended, hbuffer]
    rw [Line.next?_ended _ hsound hline, Option.some.injEq, Prod.mk.injEq] at hnext
    obtain ⟨rfl, rfl⟩ := hnext
    rw [hwhole, hbuffer, List.append_assoc, List.cons_append]
    by_cases hlong : limit < front.length
    · simpa [hlong, Output.Reads.handedBy] using Takes.drop hfront hlong h
    · simpa [hlong, Output.Reads.handedBy, shown, Line.ended] using
        Takes.line hfront (Nat.le_of_not_lt hlong) h
  · rw [Pipe.next?_unended hsound hone] at hnext
    by_cases hlong : limit < p.buffer.length
    · have hcut : p.overflows limit := by simp [Pipe.overflows, hsound, hone, hlong]
      simp only [hlong, if_true, Option.some.injEq, Prod.mk.injEq] at hnext
      obtain ⟨rfl, rfl⟩ := hnext
      rw [hcut]
      exact Takes.cut hone hlong h
    · have hwhole : p.overflows limit = false := by simp [Pipe.overflows, hlong]
      rw [hwhole]
      simp only [hlong, if_false, Option.ite_none_right_eq_some] at hnext
      obtain ⟨hended, hnext⟩ := hnext
      by_cases hnil : p.buffer = []
      · simp only [hnil, if_true, Option.some.injEq, Prod.mk.injEq] at hnext
        obtain ⟨rfl, rfl⟩ := hnext
        exact h
      · simp only [hnil, if_false, Option.some.injEq, Prod.mk.injEq] at hnext
        obtain ⟨rfl, rfl⟩ := hnext
        rw [hcoming hended] at h ⊢
        obtain ⟨rfl, rfl, rfl⟩ := Takes.of_nil h
        rw [List.append_nil]
        exact .last hone hnil (Nat.le_of_not_lt hlong)

/-- There is something to read of what overflows. -/
theorem Pipe.overflows_eq_false {limit : Nat} {p : Pipe} (hnone : p.next? limit = none) :
    p.overflows limit = false := by
  by_contra hcuts
  simp only [overflows, Bool.not_eq_false, Bool.and_eq_true, decide_eq_true_eq,
    Bool.not_eq_true'] at hcuts
  obtain ⟨⟨hsound, hone⟩, hlong⟩ := hcuts
  simp [next?_unended hsound hone, hlong] at hnone

end Datapack.Machine
