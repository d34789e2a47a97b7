import Datapack.Machine.Background
import Mathlib.Data.List.TakeWhile

/-! Output that is read by lines. What was written is what was read, piece by piece, and what waits
to be read. A piece that is not too long is a line and is handed over; so the lines are handed over
in the order in which they were written, and none of them twice. -/

namespace Datapack.Machine

open Text

/-- A part of an output that was read at once. -/
inductive Piece where
  /-- A line, which is handed over. -/
  | line (bytes : Bytes)
  /-- Too much for a line. -/
  | overlong (bytes : Bytes)
deriving DecidableEq, Repr

namespace Piece

def bytes : Piece → Bytes
  | line bytes => bytes
  | overlong bytes => bytes

/-- What is handed over of a piece. -/
def text? : Piece → Option String
  | line bytes => some (String.ofList (decodeLossy bytes))
  | overlong _ => none

/-- A line goes up to its line feed and is not too long. What is too long to be a line goes up to its
line feed too, if that has come. -/
inductive Fits (limit : Nat) : Piece → Prop where
  | line {front : Bytes} (one : Pipe.lineFeed ∉ front) (short : front.length ≤ limit) :
      Fits limit (.line (front ++ [Pipe.lineFeed]))
  | overlong {front : Bytes} (one : Pipe.lineFeed ∉ front) (long : limit < front.length) :
      Fits limit (.overlong (front ++ [Pipe.lineFeed]))
  | unended {front : Bytes} (one : Pipe.lineFeed ∉ front) (long : limit < front.length) :
      Fits limit (.overlong front)

end Piece

/-- The item by which a piece is read. -/
def Piece.item : Piece → PipeItem
  | line bytes => .line bytes
  | overlong _ => .dropped

/-- All that reading can give next. -/
inductive Pipe.Next (limit : Nat) (p : Pipe) : PipeItem → Pipe → Prop where
  | failure (broken : p.broken) : Next limit p .failure p
  | piece {piece : Piece} {rest : Bytes} (fits : piece.Fits limit)
      (front : p.buffer = piece.bytes ++ rest) : Next limit p piece.item { p with buffer := rest }
  | last (ended : p.ended) (some : p.buffer ≠ []) (one : lineFeed ∉ p.buffer)
      (short : p.buffer.length ≤ limit) : Next limit p (.line p.buffer) { p with buffer := [] }
  | finished (ended : p.ended) (none : p.buffer = []) : Next limit p .finished p

theorem Pipe.next_of_next? {limit : Nat} {p p' : Pipe} {item : PipeItem}
    (h : p.next? limit = some (item, p')) : p.Next limit item p' := by
  unfold next? at h
  split at h
  · next hbroken =>
      cases h
      exact .failure hbroken
  · have hone : lineFeed ∉ p.buffer.takeWhile (· != lineFeed) := by
      intro hmem
      simpa using List.mem_takeWhile_imp hmem
    have hsplit := List.takeWhile_append_dropWhile (p := (· != lineFeed)) (l := p.buffer)
    generalize p.buffer.takeWhile (· != lineFeed) = front at h hone hsplit
    simp only at h
    split at h
    · next mark rest hrest =>
        have hmark : mark = lineFeed := by
          have hhead := List.head_dropWhile_not (p := (· != lineFeed)) (l := p.buffer) (by simp [hrest])
          simpa [hrest] using hhead
        rw [hrest, hmark] at hsplit
        have hfront : p.buffer = front ++ [lineFeed] ++ rest := by simp [← hsplit]
        split at h
        · next hlong =>
            cases h
            exact .piece (.overlong hone hlong) hfront
        · next hshort =>
            cases h
            rw [hmark]
            exact .piece (.line hone (Nat.not_lt.mp hshort)) hfront
    · next hrest =>
        rw [hrest, List.append_nil] at hsplit
        subst hsplit
        split at h
        · next hlong =>
            cases h
            exact .piece (.unended hone hlong) (by simp [Piece.bytes])
        · next hshort =>
            split at h
            · next hended =>
                split at h
                · next hnil =>
                    cases h
                    exact .finished hended (by simpa using hnil)
                · next hsome =>
                    cases h
                    exact .last hended (by simpa using hsome) hone (Nat.not_lt.mp hshort)
            · cases h

/-- How an output was read: in pieces, of which the lines were handed over in order. Once nothing
more comes, a last line without a line feed may have been read too. -/
structure Readings (limit : Nat) (written : Bytes) (handed : List String) (pipe : Pipe)
    (pieces : List Piece) (last : Option Bytes) : Prop where
  whole : written = pieces.flatMap Piece.bytes ++ last.getD [] ++ pipe.buffer
  handed : handed = pieces.filterMap Piece.text? ++
    (last.map fun bytes => String.ofList (decodeLossy bytes)).toList
  fits : ∀ piece ∈ pieces, piece.Fits limit
  last : ∀ bytes, last = some bytes → bytes ≠ [] ∧ Pipe.lineFeed ∉ bytes ∧ bytes.length ≤ limit ∧
    pipe.buffer = [] ∧ pipe.ended

/-- An output, what was written to it, and what was handed over of it. -/
structure Output.Reads (limit : Nat) (written : Bytes) (handed : List String) (o : Output) :
    Prop where
  readings : ∃ pieces last, Readings limit written handed o.pipe pieces last
  finished : o.reader = .finished → o.pipe.buffer = [] ∧ o.pipe.ended
  failed : o.reader = .failed → o.pipe.broken

namespace Output.Reads

variable {limit : Nat} {written : Bytes} {handed : List String} {o : Output}

theorem start (limit : Nat) : Output.Reads limit [] [] {} :=
  ⟨⟨[], none, by simp, by simp, by simp, nofun⟩, nofun, nofun⟩

/-- More is written. -/
theorem feed (h : o.Reads limit written handed) (hopen : o.pipe.ended = false) (bytes : Bytes) :
    Output.Reads limit (written ++ bytes) handed { o with pipe := o.pipe.feed bytes } := by
  obtain ⟨pieces, last, hr⟩ := h.readings
  have hnone : last = none := by
    cases last with
    | none => rfl
    | some rest =>
        obtain ⟨_, _, _, _, hended⟩ := hr.last rest rfl
        simp [hopen] at hended
  subst hnone
  refine ⟨⟨pieces, none, ?_, hr.handed, hr.fits, nofun⟩, ?_, h.failed⟩
  · rw [hr.whole]
    simp [Pipe.feed]
  · intro hfinished
    have hended := (h.finished hfinished).2
    simp [hopen] at hended

/-- Nothing more will be written. -/
theorem close (h : o.Reads limit written handed) :
    Output.Reads limit written handed { o with pipe := { o.pipe with ended := true } } := by
  obtain ⟨pieces, last, hr⟩ := h.readings
  refine ⟨⟨pieces, last, hr.whole, hr.handed, hr.fits, ?_⟩, ?_, h.failed⟩
  · intro bytes hlast
    obtain ⟨hsome, hone, hshort, hnil, _⟩ := hr.last bytes hlast
    exact ⟨hsome, hone, hshort, hnil, rfl⟩
  · exact fun hfinished => ⟨(h.finished hfinished).1, rfl⟩

theorem breaks (h : o.Reads limit written handed) :
    Output.Reads limit written handed { o with pipe := { o.pipe with broken := true } } := by
  obtain ⟨pieces, last, hr⟩ := h.readings
  exact ⟨⟨pieces, last, hr.whole, hr.handed, hr.fits, hr.last⟩, h.finished, fun _ => rfl⟩

theorem cancel (h : o.Reads limit written handed) :
    Output.Reads limit written handed { o with reader := .cancelled } :=
  ⟨h.readings, nofun, nofun⟩

/-- What is handed over when an item is read. -/
def handedBy : PipeItem → List String
  | .line bytes => [String.ofList (decodeLossy bytes)]
  | _ => []

/-- What becomes of the reader when an item is read. -/
def readerAfter : PipeItem → Reader
  | .finished => .finished
  | .failure => .failed
  | _ => .reading

/-- The next item is read. -/
theorem next (h : o.Reads limit written handed) {item : PipeItem} {pipe : Pipe}
    (hnext : o.pipe.Next limit item pipe) :
    Output.Reads limit written (handed ++ handedBy item) ⟨pipe, readerAfter item⟩ := by
  obtain ⟨pieces, last, hr⟩ := h.readings
  cases hnext with
  | failure hbroken =>
      refine ⟨⟨pieces, last, hr.whole, ?_, hr.fits, hr.last⟩, nofun, fun _ => hbroken⟩
      simpa [handedBy] using hr.handed
  | finished hended hnil =>
      refine ⟨⟨pieces, last, hr.whole, ?_, hr.fits, hr.last⟩, fun _ => ⟨hnil, hended⟩, nofun⟩
      simpa [handedBy] using hr.handed
  | @piece piece rest hfits hfront =>
      have hne : piece.bytes ≠ [] := by
        cases hfits with
        | line => simp [Piece.bytes]
        | overlong => simp [Piece.bytes]
        | unended _ hlong => exact List.ne_nil_of_length_pos (Nat.zero_lt_of_lt hlong)
      have hnone : last = none := by
        cases last with
        | none => rfl
        | some bytes =>
            obtain ⟨_, _, _, hnil, _⟩ := hr.last bytes rfl
            simp [hnil, hne] at hfront
      subst hnone
      refine ⟨⟨pieces ++ [piece], none, ?_, ?_, ?_, nofun⟩, ?_, ?_⟩
      · rw [hr.whole, hfront]
        simp
      · rw [hr.handed]
        cases piece <;> simp [handedBy, Piece.item, Piece.text?]
      · intro piece' hmem
        rcases List.mem_append.mp hmem with hmem | hmem
        · exact hr.fits piece' hmem
        · obtain rfl := List.mem_singleton.mp hmem
          exact hfits
      · cases piece <;> exact nofun
      · cases piece <;> exact nofun
  | last hended hsome hone hshort =>
      have hnone : last = none := by
        cases last with
        | none => rfl
        | some bytes => exact absurd (hr.last bytes rfl).2.2.2.1 hsome
      subst hnone
      refine ⟨⟨pieces, some o.pipe.buffer, ?_, ?_, hr.fits, ?_⟩, nofun, nofun⟩
      · rw [hr.whole]
        simp
      · rw [hr.handed]
        simp [handedBy]
      · rintro bytes ⟨⟩
        exact ⟨hsome, hone, hshort, rfl, hended⟩

end Output.Reads

end Datapack.Machine
