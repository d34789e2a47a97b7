import Datapack.Proofs.Text.Utf8
import Datapack.Text.Percent
import Mathlib.Tactic.IntervalCases

/-! Percent-encoding there and back. Each character is read back as its units, and a run of escaped
bytes is cut only where a plain character stands, so the bytes of one character stay together. What
was encoded is therefore read back as it was, whatever plain text stands behind it. -/

namespace Datapack.Text

/-! ### Units -/

theorem hexValue?_hexDigitUpper {n : Nat} (h : n < 16) : hexValue? (hexDigitUpper n) = some n := by
  interval_cases n <;> decide

/-- An escaped byte is read as one unit. -/
theorem escapeUnits_percentByte (b : UInt8) (rest : List Char) :
    escapeUnits (percentByte b ++ rest) = .byte b :: escapeUnits rest := by
  have hb : b.toNat < 256 := b.toNat_lt
  have hbyte : 16 * (b.toNat / 16) + b.toNat % 16 = b.toNat := Nat.div_add_mod b.toNat 16
  simp only [percentByte, List.cons_append, List.nil_append, escapeUnits,
    hexValue?_hexDigitUpper (show b.toNat / 16 < 16 by omega),
    hexValue?_hexDigitUpper (show b.toNat % 16 < 16 by omega), hbyte, UInt8.ofNat_toNat]

theorem escapeUnits_cons {c : Char} (hc : c ≠ '%') (rest : List Char) :
    escapeUnits (c :: rest) = .plain c :: escapeUnits rest :=
  escapeUnits.eq_2 c rest fun _ _ _ h _ => hc h

theorem ne_percent_of_isPlainInPath {c : Char} (h : isPlainInPath c) : c ≠ '%' := by
  rintro rfl
  exact absurd h (by decide)

/-- The units in which a character of a path is written. -/
def pathUnits (c : Char) : List EscapeUnit :=
  if isPlainInPath c then [.plain c] else (encodeChar c).map .byte

theorem escapeUnits_percentEncode (cs rest : List Char) :
    escapeUnits (percentEncode cs ++ rest) = cs.flatMap pathUnits ++ escapeUnits rest := by
  have hbytes (bs : Bytes) (rest : List Char) :
      escapeUnits (bs.flatMap percentByte ++ rest) = bs.map .byte ++ escapeUnits rest := by
    induction bs with
    | nil => rfl
    | cons b bs ih =>
        rw [List.flatMap_cons, List.append_assoc, escapeUnits_percentByte, ih, List.map_cons,
          List.cons_append]
  induction cs with
  | nil => rfl
  | cons c cs ih =>
      rw [percentEncode, List.flatMap_cons, List.append_assoc, ← percentEncode, List.flatMap_cons,
        List.append_assoc, ← ih, pathUnits]
      split
      · next hplain =>
          rw [List.singleton_append, escapeUnits_cons (ne_percent_of_isPlainInPath hplain),
            List.singleton_append]
      · rw [hbytes]

/-! ### Runs of bytes -/

@[simp] theorem decodeLossy_nil : decodeLossy [] = [] := by simp [decodeLossy, decodeParts]

theorem decodeLossy_encodeChars (cs : List Char) : decodeLossy (encodeChars cs) = cs := by
  rw [decodeLossy, decodeParts_encodeChars, List.map_map]
  exact List.map_id cs

theorem joinUnits_bytes (bs pending : Bytes) (rest : List EscapeUnit) :
    joinUnits pending (bs.map .byte ++ rest) = joinUnits (bs.reverse ++ pending) rest := by
  induction bs generalizing pending with
  | nil => rfl
  | cons b bs ih =>
      rw [List.map_cons, List.cons_append, joinUnits, ih, List.reverse_cons, List.append_assoc,
        List.singleton_append]

/-- Units that do not go on with a run of bytes. -/
def EndsRun : List EscapeUnit → Prop
  | .byte _ :: _ => False
  | _ => True

theorem joinUnits_of_endsRun {units : List EscapeUnit} (h : EndsRun units) (pending : Bytes) :
    joinUnits pending units = decodeLossy pending.reverse ++ joinUnits [] units := by
  cases units with
  | nil => simp [joinUnits]
  | cons unit units =>
      cases unit with
      | plain c => simp [joinUnits]
      | byte b => exact h.elim

/-- The units of a path are read back as the path, also behind a run that holds the bytes of whole
characters. -/
theorem joinUnits_pathUnits {rest : List EscapeUnit} (hrest : EndsRun rest) (run cs : List Char) :
    joinUnits (encodeChars run).reverse (cs.flatMap pathUnits ++ rest) =
      run ++ cs ++ joinUnits [] rest := by
  induction cs generalizing run with
  | nil =>
      rw [List.flatMap_nil, List.nil_append, joinUnits_of_endsRun hrest, List.reverse_reverse,
        decodeLossy_encodeChars, List.append_nil]
  | cons c cs ih =>
      rw [List.flatMap_cons, List.append_assoc, pathUnits]
      split
      · have hbehind : joinUnits [] (cs.flatMap pathUnits ++ rest) = cs ++ joinUnits [] rest :=
          ih []
        rw [List.singleton_append, joinUnits, List.reverse_reverse, decodeLossy_encodeChars,
          hbehind, List.append_assoc, List.cons_append]
      · have hrun : (encodeChar c).reverse ++ (encodeChars run).reverse =
            (encodeChars (run ++ [c])).reverse := by
          have hone : encodeChars [c] = encodeChar c := List.flatMap_singleton encodeChar c
          rw [encodeChars_append, List.reverse_append, hone]
        rw [joinUnits_bytes, hrun, ih, List.append_assoc run, List.singleton_append]

/-! ### Paths -/

/-- A path that was written with escapes is read back as it was, and what stands behind it is read
on its own unless it starts with an escape. -/
theorem percentDecode_percentEncode_append {rest : List Char} (hrest : rest.head? ≠ some '%')
    (cs : List Char) : percentDecode (percentEncode cs ++ rest) = cs ++ percentDecode rest := by
  have hends : EndsRun (escapeUnits rest) := by
    cases rest with
    | nil => trivial
    | cons c rest =>
        rw [escapeUnits_cons (by simpa using hrest)]
        trivial
  rw [percentDecode, escapeUnits_percentEncode]
  exact joinUnits_pathUnits hends [] cs

@[simp] theorem percentDecode_nil : percentDecode [] = [] := by
  simp [percentDecode, escapeUnits, joinUnits]

theorem percentDecode_percentEncode (cs : List Char) : percentDecode (percentEncode cs) = cs := by
  have hnil : ([] : List Char).head? ≠ some '%' := by simp
  have hread := percentDecode_percentEncode_append hnil cs
  rwa [List.append_nil, percentDecode_nil, List.append_nil] at hread

theorem percentEncode_append (cs ds : List Char) :
    percentEncode (cs ++ ds) = percentEncode cs ++ percentEncode ds := List.flatMap_append

theorem percentDecode_cons {c : Char} (hc : c ≠ '%') (rest : List Char) :
    percentDecode (c :: rest) = c :: percentDecode rest := by
  simp [percentDecode, escapeUnits_cons hc, joinUnits]

theorem percentEncode_singleton {c : Char} (hc : isPlainInPath c) : percentEncode [c] = [c] := by
  simp [percentEncode, hc]

/-- Whether a path starts with a text that ends in a plain character can be told from how it is
written. -/
theorem percentEncode_concat_prefix_iff {c : Char} (hc : isPlainInPath c) {cs ds : List Char} :
    percentEncode cs ++ [c] <+: percentEncode ds ↔ cs ++ [c] <+: ds := by
  have hne := ne_percent_of_isPlainInPath hc
  constructor
  · rintro ⟨tail, htail⟩
    have hread := congrArg percentDecode htail
    rw [List.append_assoc, List.singleton_append,
      percentDecode_percentEncode_append (by simpa using hne), percentDecode_cons hne,
      percentDecode_percentEncode] at hread
    exact ⟨percentDecode tail, by rw [← hread, List.append_assoc, List.singleton_append]⟩
  · rintro ⟨tail, rfl⟩
    rw [percentEncode_append, percentEncode_append, percentEncode_singleton hc]
    exact List.prefix_append _ _

end Datapack.Text
