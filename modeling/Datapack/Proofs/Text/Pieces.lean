import Datapack.Proofs.Text.Utf8

/-! Texts that are cut wherever one symbol is followed by another. Parts that are ended one after
the other come back as the pieces of each of them, so they come back as they are if and only if none
of them has the two symbols in a row. Encoding a text and cutting it can be done in either order. -/

namespace Datapack.Text

section

variable {α : Type} [DecidableEq α] {r f : α}

/-- The pieces between the places where `r` is followed by `f`. -/
def pieces (r f : α) : List α → List (List α)
  | [] => [[]]
  | [a] => [[a]]
  | a :: b :: rest =>
    if a = r ∧ b = f then [] :: pieces r f rest else (pieces r f (b :: rest)).modifyHead (a :: ·)

theorem pieces_end (rest : List α) : pieces r f (r :: f :: rest) = [] :: pieces r f rest := by
  rw [pieces, if_pos ⟨rfl, rfl⟩]

/-- A symbol that starts no end belongs to the first piece. -/
theorem pieces_cons {a : α} {rest : List α} (h : a = r → rest.head? ≠ some f) :
    pieces r f (a :: rest) = (pieces r f rest).modifyHead (a :: ·) := by
  cases rest with
  | nil => rfl
  | cons b rest =>
      rw [pieces, if_neg]
      rintro ⟨ha, rfl⟩
      exact h ha rfl

theorem pieces_ne_nil (xs : List α) : pieces r f xs ≠ [] := by
  induction xs using pieces.induct r f with
  | case1 => simp [pieces]
  | case2 a => simp [pieces]
  | case3 a b rest hend ih => simp [pieces, hend]
  | case4 a b rest hend ih => simpa [pieces, hend] using ih

theorem exists_pieces (xs : List α) : ∃ piece more, pieces r f xs = piece :: more :=
  List.exists_cons_of_ne_nil (pieces_ne_nil xs)

/-- An end between two texts separates their pieces. -/
theorem pieces_append (hne : r ≠ f) (xs rest : List α) :
    pieces r f (xs ++ r :: f :: rest) = pieces r f xs ++ pieces r f rest := by
  induction xs using pieces.induct r f with
  | case1 => exact pieces_end rest
  | case2 a =>
      have hfirst : a = r → (r :: f :: rest).head? ≠ some f := fun _ h => hne (Option.some.inj h)
      rw [List.singleton_append, pieces_cons hfirst, pieces_end]
      rfl
  | case3 a b xs hend ih =>
      obtain ⟨rfl, rfl⟩ := hend
      rw [List.cons_append, List.cons_append, pieces_end, pieces_end, ih, List.cons_append]
  | case4 a b xs hend ih =>
      have hfirst (xs : List α) : a = r → (b :: xs).head? ≠ some f := by
        rintro ha ⟨⟩
        exact hend ⟨ha, rfl⟩
      obtain ⟨piece, more, hpieces⟩ := exists_pieces (r := r) (f := f) (b :: xs)
      rw [List.cons_append, List.cons_append, pieces_cons (hfirst _), pieces_cons (hfirst _),
        ← List.cons_append, ih, hpieces]
      rfl

/-- A text is its only piece if and only if there is no end in it. -/
theorem pieces_eq_singleton_iff (hne : r ≠ f) {xs : List α} :
    pieces r f xs = [xs] ↔ ¬[r, f] <:+: xs := by
  constructor
  · rintro h ⟨before, after, rfl⟩
    have hlength := congrArg List.length h
    rw [List.append_assoc, List.cons_append, List.singleton_append, pieces_append hne,
      List.length_append, List.length_singleton] at hlength
    have hbefore := List.length_pos_of_ne_nil (pieces_ne_nil (r := r) (f := f) before)
    have hafter := List.length_pos_of_ne_nil (pieces_ne_nil (r := r) (f := f) after)
    omega
  · intro h
    induction xs with
    | nil => rfl
    | cons a xs ih =>
        rw [pieces_cons, ih fun hxs => h (hxs.trans (List.suffix_cons a xs).isInfix)]
        · rfl
        · rintro rfl hhead
          obtain ⟨rest, rfl⟩ := List.head?_eq_some_iff.mp hhead
          exact h ⟨[], rest, rfl⟩

/-- Ended texts one after the other, and nothing after the last end. -/
theorem pieces_flatMap (hne : r ≠ f) (texts : List (List α)) :
    pieces r f (texts.flatMap (· ++ [r, f])) = texts.flatMap (pieces r f) ++ [[]] := by
  induction texts with
  | nil => rfl
  | cons text texts ih =>
      rw [List.flatMap_cons, List.append_assoc, List.cons_append, List.singleton_append,
        pieces_append hne, ih, List.flatMap_cons, List.append_assoc]

/-- There are at least as many pieces as texts. -/
theorem length_le_flatMap_pieces (texts : List (List α)) :
    texts.length ≤ (texts.flatMap (pieces r f)).length := by
  induction texts with
  | nil => simp
  | cons text texts ih =>
      have hpieces := List.length_pos_of_ne_nil (pieces_ne_nil (r := r) (f := f) text)
      rw [List.flatMap_cons, List.length_append, List.length_cons]
      omega

/-- Texts come back as they are if and only if each of them is its only piece. -/
theorem flatMap_pieces_eq_iff {texts : List (List α)} :
    texts.flatMap (pieces r f) = texts ↔ ∀ text ∈ texts, pieces r f text = [text] := by
  induction texts with
  | nil => simp
  | cons text texts ih =>
      rw [List.forall_mem_cons, ← ih.eq, List.flatMap_cons]
      constructor
      · intro h
        obtain ⟨piece, more, hpieces⟩ := exists_pieces (r := r) (f := f) text
        rw [hpieces, List.cons_append, List.cons.injEq] at h
        obtain ⟨rfl, hmore⟩ := h
        have hlength := congrArg List.length hmore
        have hrest := length_le_flatMap_pieces (r := r) (f := f) texts
        rw [List.length_append] at hlength
        obtain rfl : more = [] := List.eq_nil_of_length_eq_zero (by omega)
        exact ⟨hpieces, hmore⟩
      · rintro ⟨htext, htexts⟩
        rw [htext, htexts]
        rfl

/-- A text in which no end starts belongs to the first piece. -/
theorem pieces_append_left {xs : List α} (hxs : r ∉ xs) (rest : List α) :
    pieces r f (xs ++ rest) = (pieces r f rest).modifyHead (xs ++ ·) := by
  obtain ⟨piece, more, hpieces⟩ := exists_pieces (r := r) (f := f) rest
  induction xs with
  | nil =>
      rw [List.nil_append, hpieces]
      rfl
  | cons x xs ih =>
      have hx : x ≠ r := fun h => hxs (h ▸ List.mem_cons_self)
      rw [List.cons_append, pieces_cons fun h => absurd h hx,
        ih (mt (List.mem_cons_of_mem x) hxs), hpieces]
      rfl

omit [DecidableEq α] in
/-- The text before it adds no end to a text, unless the first symbol of an end is in it. -/
theorem infix_append_left_iff {xs : List α} (hxs : r ∉ xs) (rest : List α) :
    [r, f] <:+: xs ++ rest ↔ [r, f] <:+: rest := by
  induction xs with
  | nil => rw [List.nil_append]
  | cons x xs ih =>
      have hx : ¬[r, f] <+: x :: (xs ++ rest) := by
        rw [List.cons_prefix_cons]
        exact fun h => hxs (h.1 ▸ List.mem_cons_self)
      rw [List.cons_append, List.infix_cons_iff, ih (mt (List.mem_cons_of_mem x) hxs)]
      exact or_iff_right hx

end

/-! ### Encoded texts -/

/-- The pieces of an encoded text are the encodings of its pieces. -/
theorem pieces_encodeChars {r f : Char} (hr : r.toNat < 0x80) (hf : f.toNat < 0x80)
    (cs : List Char) :
    pieces (UInt8.ofNat r.toNat) (UInt8.ofNat f.toNat) (encodeChars cs) =
      (pieces r f cs).map encodeChars := by
  -- a character at which no end starts
  have hlater {a : Char} {cs : List Char} (ha : a = r → cs.head? ≠ some f)
      (ih : pieces (UInt8.ofNat r.toNat) (UInt8.ofNat f.toNat) (encodeChars cs) =
        (pieces r f cs).map encodeChars) :
      pieces (UInt8.ofNat r.toNat) (UInt8.ofNat f.toNat) (encodeChars (a :: cs)) =
        (pieces r f (a :: cs)).map encodeChars := by
    have hbytes : pieces (UInt8.ofNat r.toNat) (UInt8.ofNat f.toNat) (encodeChars (a :: cs)) =
        (pieces (UInt8.ofNat r.toNat) (UInt8.ofNat f.toNat) (encodeChars cs)).modifyHead
          (encodeChar a ++ ·) := by
      rw [encodeChars_cons]
      by_cases heq : a = r
      · rw [heq, encodeChar_ascii hr, List.singleton_append,
          pieces_cons fun _ => mt (head?_of_head?_encodeChars hf) (ha heq)]
        rfl
      · exact pieces_append_left (mt (mem_encodeChar_iff hr).mp heq) _
    obtain ⟨piece, more, hpieces⟩ := exists_pieces (r := r) (f := f) cs
    rw [hbytes, ih, pieces_cons ha, hpieces, List.map_cons, List.modifyHead_cons,
      List.modifyHead_cons, List.map_cons, encodeChars_cons]
  induction cs using pieces.induct r f with
  | case1 => rfl
  | case2 a => exact hlater nofun rfl
  | case3 a b cs hend ih =>
      obtain ⟨rfl, rfl⟩ := hend
      rw [encodeChars_cons, encodeChars_cons, encodeChar_ascii hr, encodeChar_ascii hf,
        List.singleton_append, List.singleton_append, pieces_end, pieces_end, ih]
      rfl
  | case4 a b cs hend ih => exact hlater (fun ha hb => hend ⟨ha, Option.some.inj hb⟩) ih

end Datapack.Text
