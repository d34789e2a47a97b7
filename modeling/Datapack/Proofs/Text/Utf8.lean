import Mathlib.Data.List.Basic
import Datapack.Text.Utf8

/-! UTF-8 there and back. The decoder reads the encoding of a character as that character and goes
on right behind it, so the encoding of a text decodes to the text. -/

namespace Datapack.Text

/-! ### Lead bytes -/

/-- The lead byte of a character of two bytes. -/
theorem leadByte_two {n : Nat} (hlo : 0x80 ≤ n) (hhi : n < 0x800) :
    leadByte (0xC0 + n / 64) = some (1, 0x80, 0xBF) := by
  grind [leadByte]

/-- The lead byte of a character of three bytes, and a range that its second byte is in. -/
theorem leadByte_three {n : Nat} (hlo : 0x800 ≤ n) (hhi : n < 0x10000)
    (hvalid : n < 0xD800 ∨ 0xDFFF < n) :
    ∃ lo hi, leadByte (0xE0 + n / 4096) = some (2, lo, hi) ∧
      lo ≤ 0x80 + n / 64 % 64 ∧ 0x80 + n / 64 % 64 ≤ hi := by
  by_cases hfirst : n / 4096 = 0
  · exact ⟨0xA0, 0xBF, by grind [leadByte], by omega, by omega⟩
  · by_cases hsurrogate : n / 4096 = 13
    · exact ⟨0x80, 0x9F, by grind [leadByte], by omega, by omega⟩
    · exact ⟨0x80, 0xBF, by grind [leadByte], by omega, by omega⟩

/-- The lead byte of a character of four bytes, and a range that its second byte is in. -/
theorem leadByte_four {n : Nat} (hlo : 0x10000 ≤ n) (hhi : n < 0x110000) :
    ∃ lo hi, leadByte (0xF0 + n / 262144) = some (3, lo, hi) ∧
      lo ≤ 0x80 + n / 4096 % 64 ∧ 0x80 + n / 4096 % 64 ≤ hi := by
  by_cases hfirst : n / 262144 = 0
  · exact ⟨0x90, 0xBF, by grind [leadByte], by omega, by omega⟩
  · by_cases hlast : n / 262144 = 4
    · exact ⟨0x80, 0x8F, by grind [leadByte], by omega, by omega⟩
    · exact ⟨0x80, 0xBF, by grind [leadByte], by omega, by omega⟩

theorem leadPayload_two (b : Nat) : leadPayload 1 b = b - 0xC0 := rfl

theorem leadPayload_three (b : Nat) : leadPayload 2 b = b - 0xE0 := rfl

theorem leadPayload_four (b : Nat) : leadPayload 3 b = b - 0xF0 := rfl

/-! ### Continuation bytes -/

/-- A byte value below 256 stands for itself. -/
theorem toNat_ofNat {m : Nat} (hm : m < 256) : (UInt8.ofNat m).toNat = m := by
  rw [UInt8.toNat_ofNat']
  omega

/-- A continuation byte adds six bits. -/
theorem continuation_cons {count lo hi acc m used code : Nat} {rest : Bytes} (hm : m < 64)
    (hlo : lo ≤ 0x80 + m) (hhi : 0x80 + m ≤ hi)
    (hrest : continuation count 0x80 0xBF (acc * 64 + m) rest = (used, some code)) :
    continuation (count + 1) lo hi acc (UInt8.ofNat (0x80 + m) :: rest) =
      (used + 1, some code) := by
  rw [continuation, toNat_ofNat (by omega), if_pos (by simp [hlo, hhi]), Nat.add_sub_cancel_left,
    hrest]

/-- The last continuation byte. -/
theorem continuation_last {lo hi acc m : Nat} {rest : Bytes} (hm : m < 64) (hlo : lo ≤ 0x80 + m)
    (hhi : 0x80 + m ≤ hi) :
    continuation 1 lo hi acc (UInt8.ofNat (0x80 + m) :: rest) = (1, some (acc * 64 + m)) :=
  continuation_cons hm hlo hhi rfl

/-! ### Characters -/

/-- A lead byte and the continuation bytes it asks for are one character. -/
theorem decodeStep_lead {m count lo hi used code : Nat} {rest : Bytes} (hlo : 0x80 ≤ m)
    (hhi : m < 256) (hlead : leadByte m = some (count, lo, hi))
    (hcontinued : continuation count lo hi (leadPayload count m) rest = (used, some code)) :
    decodeStep (UInt8.ofNat m) rest = (used, some (Char.ofNat code)) := by
  rw [decodeStep, toNat_ofNat hhi, if_neg (by omega), hlead]
  simp only [hcontinued, Option.map_some]

/-- The decoder reads the encoding of a character, whatever follows it. -/
theorem decodeStep_encodeChar (c : Char) :
    ∃ b tail, encodeChar c = b :: tail ∧
      ∀ rest, decodeStep b (tail ++ rest) = (tail.length, some c) := by
  have hvalid : c.toNat < 0xD800 ∨ 0xDFFF < c.toNat ∧ c.toNat < 0x110000 := c.valid
  have hchar {code : Nat} (hcode : code = c.toNat) : Char.ofNat code = c := by
    rw [hcode, Char.ofNat_toNat]
  unfold encodeChar
  simp only
  generalize c.toNat = n at hvalid hchar
  by_cases h1 : n < 0x80
  · rw [if_pos h1]
    refine ⟨_, [], rfl, fun rest => ?_⟩
    rw [decodeStep, toNat_ofNat (by omega), if_pos h1, hchar rfl]
    rfl
  by_cases h2 : n < 0x800
  · rw [if_neg h1, if_pos h2]
    refine ⟨_, _, rfl, fun rest => ?_⟩
    have hlead := leadByte_two (Nat.le_of_not_lt h1) h2
    rw [List.cons_append, decodeStep_lead (by omega) (by omega) hlead
      (continuation_last (Nat.mod_lt n (by decide)) (by omega) (by omega)), hchar]
    · rfl
    · rw [leadPayload_two, Nat.add_sub_cancel_left]
      omega
  by_cases h3 : n < 0x10000
  · rw [if_neg h1, if_neg h2, if_pos h3]
    refine ⟨_, _, rfl, fun rest => ?_⟩
    obtain ⟨lo, hi, hlead, hlo, hhi⟩ := leadByte_three (Nat.le_of_not_lt h2) h3 (by omega)
    rw [List.cons_append, List.cons_append, decodeStep_lead (by omega) (by omega) hlead
      (continuation_cons (Nat.mod_lt _ (by decide)) hlo hhi
        (continuation_last (Nat.mod_lt n (by decide)) (by omega) (by omega))), hchar]
    · rfl
    · rw [leadPayload_three, Nat.add_sub_cancel_left]
      omega
  · rw [if_neg h1, if_neg h2, if_neg h3]
    refine ⟨_, _, rfl, fun rest => ?_⟩
    obtain ⟨lo, hi, hlead, hlo, hhi⟩ := leadByte_four (Nat.le_of_not_lt h3) (by omega)
    rw [List.cons_append, List.cons_append, List.cons_append,
      decodeStep_lead (by omega) (by omega) hlead
        (continuation_cons (Nat.mod_lt _ (by decide)) hlo hhi
          (continuation_cons (Nat.mod_lt _ (by decide)) (by omega) (by omega)
            (continuation_last (Nat.mod_lt n (by decide)) (by omega) (by omega)))), hchar]
    · rfl
    · rw [leadPayload_four, Nat.add_sub_cancel_left]
      omega

/-! ### Texts -/

theorem encodeChars_cons (c : Char) (cs : List Char) :
    encodeChars (c :: cs) = encodeChar c ++ encodeChars cs := List.flatMap_cons

theorem encodeChars_append (cs ds : List Char) :
    encodeChars (cs ++ ds) = encodeChars cs ++ encodeChars ds := List.flatMap_append

theorem decodeParts_encodeChar (c : Char) (rest : Bytes) :
    decodeParts (encodeChar c ++ rest) = some c :: decodeParts rest := by
  obtain ⟨b, tail, hencoded, hdecoded⟩ := decodeStep_encodeChar c
  rw [hencoded, List.cons_append, decodeParts, hdecoded rest]
  simp only [List.drop_left]

theorem decodeParts_encodeChars (cs : List Char) : decodeParts (encodeChars cs) = cs.map some := by
  induction cs with
  | nil => simp [encodeChars, decodeParts]
  | cons c cs ih => rw [encodeChars_cons, decodeParts_encodeChar, ih, List.map_cons]

/-- The encoding of a text decodes to the text. -/
theorem decodeStrict?_encodeChars (cs : List Char) : decodeStrict? (encodeChars cs) = some cs := by
  rw [decodeStrict?, decodeParts_encodeChars, List.mapM_map]
  exact (List.mapM_pure (m := Option) (f := id)).trans (congrArg some (List.map_id cs))

/-! ### Bytes of characters -/

/-- A character of one byte. -/
theorem encodeChar_ascii {c : Char} (hc : c.toNat < 0x80) :
    encodeChar c = [UInt8.ofNat c.toNat] := by
  rw [encodeChar, if_pos hc]

/-- All bytes of a longer character are above the bytes of the shorter ones. -/
theorem le_of_mem_encodeChar {c : Char} {b : UInt8} (hc : 0x80 ≤ c.toNat) (hb : b ∈ encodeChar c) :
    0x80 ≤ b.toNat := by
  have hvalid : c.toNat < 0xD800 ∨ 0xDFFF < c.toNat ∧ c.toNat < 0x110000 := c.valid
  have habove {m : Nat} (hlo : 0x80 ≤ m) (hhi : m < 256) : 0x80 ≤ (UInt8.ofNat m).toNat := by
    rwa [toNat_ofNat hhi]
  unfold encodeChar at hb
  simp only at hb
  generalize c.toNat = n at hc hvalid hb
  rw [if_neg (Nat.not_lt.mpr hc)] at hb
  split at hb
  · simp only [List.mem_cons, List.not_mem_nil, or_false] at hb
    rcases hb with rfl | rfl <;> exact habove (by omega) (by omega)
  · split at hb
    · simp only [List.mem_cons, List.not_mem_nil, or_false] at hb
      rcases hb with rfl | rfl | rfl <;> exact habove (by omega) (by omega)
    · simp only [List.mem_cons, List.not_mem_nil, or_false] at hb
      rcases hb with rfl | rfl | rfl | rfl <;> exact habove (by omega) (by omega)

/-- Only the character of one byte has that byte. -/
theorem mem_encodeChar_iff {c d : Char} (hd : d.toNat < 0x80) :
    UInt8.ofNat d.toNat ∈ encodeChar c ↔ c = d := by
  constructor
  · intro h
    by_cases hc : c.toNat < 0x80
    · rw [encodeChar_ascii hc, List.mem_singleton] at h
      have hcodes := congrArg UInt8.toNat h
      rw [toNat_ofNat (by omega), toNat_ofNat (by omega)] at hcodes
      exact Char.ext (UInt32.toNat_inj.mp hcodes.symm)
    · have hbyte := le_of_mem_encodeChar (Nat.le_of_not_lt hc) h
      rw [toNat_ofNat (by omega)] at hbyte
      omega
  · rintro rfl
    rw [encodeChar_ascii hd]
    exact List.mem_singleton.mpr rfl

/-- An encoded text starts with the byte of a character only if the text starts with it. -/
theorem head?_of_head?_encodeChars {cs : List Char} {d : Char} (hd : d.toNat < 0x80)
    (h : (encodeChars cs).head? = some (UInt8.ofNat d.toNat)) : cs.head? = some d := by
  cases cs with
  | nil => cases h
  | cons c cs =>
      obtain ⟨b, tail, hencoded, -⟩ := decodeStep_encodeChar c
      rw [encodeChars_cons, hencoded, List.cons_append, List.head?_cons, Option.some.injEq] at h
      have hmem : UInt8.ofNat d.toNat ∈ encodeChar c := by
        rw [hencoded, h]
        exact List.mem_cons_self
      rw [List.head?_cons, (mem_encodeChar_iff hd).mp hmem]

end Datapack.Text
