import Datapack.Text.Integer
import Mathlib.Data.List.Induction
import Mathlib.Data.List.TakeWhile

/-! Integers are read back from their decimal text, as long as it has no more digits than an integer
may have; and nothing that is read has more. -/

namespace Datapack.Text

/-- How many decimal digits an integer has; a sign does not count. -/
def digitCount (n : Int) : Nat := (Nat.toDigits 10 n.natAbs).length

section Digits

variable {c : Char} {cs : List Char}

theorem decimalDigit?_of_isDigit (h : c.isDigit) : decimalDigit? c = some (c.toNat - 48) := by
  rw [decimalDigit?, if_pos h]

theorem isDigitOrUnderscore_of_isDigit (h : c.isDigit) : isDigitOrUnderscore c := by
  simp [isDigitOrUnderscore, decimalDigit?_of_isDigit h]

theorem ne_of_isDigit (h : c.isDigit) {mark : Char} (hmark : mark.isDigit = false) : c ≠ mark := by
  rintro rfl
  simp [h] at hmark

/-- A run of ASCII digits has no underscores to skip. -/
theorem digitRun?_of_isDigit (hne : cs ≠ []) (h : ∀ c ∈ cs, c.isDigit) :
    digitRun? cs = some (cs.map fun c => c.toNat - 48) := by
  fun_induction digitRun? cs with
  | case1 => exact absurd rfl hne
  | case2 c => simp [decimalDigit?_of_isDigit (h c (by simp))]
  | case3 c rest => exact absurd rfl (ne_of_isDigit (h '_' (by simp)) (by decide))
  | case4 c d rest _ ih =>
      have htail : ∀ c ∈ d :: rest, c.isDigit := fun c hc => h c (List.mem_cons_of_mem _ hc)
      simp [decimalDigit?_of_isDigit (h c (by simp)), ih (by simp) htail]

theorem ofDigits_map_digit (cs : List Char) :
    ofDigits (cs.map fun c => c.toNat - 48) = Nat.ofDigitChars 10 cs 0 := by
  rw [Nat.ofDigitChars_eq_foldl, ofDigits, List.foldl_map]
  rfl

theorem splitSign_of_isDigit (h : ∀ c ∈ cs, c.isDigit) : splitSign cs = (false, cs) := by
  unfold splitSign
  split
  · exact absurd rfl (ne_of_isDigit (h '-' (by simp)) (by decide))
  · exact absurd rfl (ne_of_isDigit (h '+' (by simp)) (by decide))
  · rfl

theorem isIntegerBlank_of_isDigit (h : c.isDigit) : isIntegerBlank c = false := by
  have hrange : 48 ≤ c.toNat ∧ c.toNat ≤ 57 := Char.isDigit_iff_toNat.mp h
  have hblank : isBlank c = false := by
    simp only [isBlank, inRanges, blankRanges, List.any_eq_false, Bool.and_eq_true,
      decide_eq_true_eq, List.mem_cons, List.not_mem_nil, or_false]
    rintro r (rfl | rfl | rfl | rfl | rfl | rfl | rfl | rfl | rfl | rfl) <;> omega
  rw [isIntegerBlank, hblank, Bool.false_and]

end Digits

/-- Reading the digits of a number, after its sign. -/
theorem parseInteger_sign_digits {sign : List Char} {negative : Bool} (n : Nat)
    (hsign : sign = [] ∧ negative = false ∨ sign = ['-'] ∧ negative = true)
    (h : (Nat.toDigits 10 n).length ≤ maxIntegerDigits) :
    parseInteger (sign ++ Nat.toDigits 10 n) = .ok (if negative then -(n : Int) else n) := by
  have hdigits : ∀ c ∈ Nat.toDigits 10 n, c.isDigit := fun c hc =>
    Nat.isDigit_of_mem_toDigits (by decide) (by decide) hc
  have hne : Nat.toDigits 10 n ≠ [] := Nat.toDigits_ne_nil
  have hrun : ∀ c ∈ Nat.toDigits 10 n, isDigitOrUnderscore c := fun c hc =>
    isDigitOrUnderscore_of_isDigit (hdigits c hc)
  have hblank : (sign ++ Nat.toDigits 10 n).dropWhile isIntegerBlank = sign ++ Nat.toDigits 10 n := by
    rw [List.dropWhile_eq_self_iff]
    intro hlength
    rcases hsign with ⟨rfl, _⟩ | ⟨rfl, _⟩
    · simpa using isIntegerBlank_of_isDigit (hdigits _ (List.getElem_mem hlength))
    · simp only [List.cons_append, List.getElem_cons_zero]
      decide
  have hsplit : splitSign (sign ++ Nat.toDigits 10 n) = (negative, Nat.toDigits 10 n) := by
    rcases hsign with ⟨rfl, rfl⟩ | ⟨rfl, rfl⟩
    · exact splitSign_of_isDigit hdigits
    · rfl
  have hfront : (Nat.toDigits 10 n).takeWhile isDigitOrUnderscore = Nat.toDigits 10 n :=
    List.takeWhile_eq_self_iff.mpr hrun
  have hback : (Nat.toDigits 10 n).dropWhile isDigitOrUnderscore = [] :=
    List.dropWhile_eq_nil_iff.mpr hrun
  have hvalue : ofDigits ((Nat.toDigits 10 n).map fun c => c.toNat - 48) = n := by
    rw [ofDigits_map_digit, Nat.ofDigitChars_ten_toDigits]
  simp only [parseInteger, hblank, hsplit, hfront, hback, digitRun?_of_isDigit hne hdigits,
    List.length_map, Nat.not_lt.mpr h, if_false, List.all_nil, if_true, hvalue]

/-- The text of an integer: its digits, after a minus sign if it is negative. -/
theorem toList_toString_int (n : Int) :
    (toString n).toList = (if 0 ≤ n then [] else ['-']) ++ Nat.toDigits 10 n.natAbs := by
  have htext : toString n = n.repr := rfl
  rw [htext, Int.repr_eq_if]
  split
  · next hn =>
      have hnat : n.toNat = n.natAbs := by omega
      rw [hnat, Nat.repr_eq_ofList_toDigits, String.toList_ofList, List.nil_append]
  · next hn =>
      have hnat : (-n).toNat = n.natAbs := by omega
      rw [hnat, Nat.repr_eq_ofList_toDigits, String.toList_append]
      simp

/-- The text of an integer is read back. -/
theorem parseInteger_toString {n : Int} (h : digitCount n ≤ maxIntegerDigits) :
    parseInteger (toString n).toList = .ok n := by
  rw [toList_toString_int]
  by_cases hn : 0 ≤ n
  · rw [if_pos hn, parseInteger_sign_digits n.natAbs (.inl ⟨rfl, rfl⟩) h]
    exact congrArg Except.ok (Int.natAbs_of_nonneg hn)
  · rw [if_neg hn, parseInteger_sign_digits n.natAbs (.inr ⟨rfl, rfl⟩) h]
    refine congrArg Except.ok ?_
    rw [if_pos rfl]
    omega

/-! ### What is read -/

theorem lt_ten_of_decimalDigit? {c : Char} {d : Nat} (h : decimalDigit? c = some d) : d < 10 := by
  unfold decimalDigit? at h
  split at h
  · next hdigit =>
      have hrange : 48 ≤ c.toNat ∧ c.toNat ≤ 57 := Char.isDigit_iff_toNat.mp hdigit
      cases h
      omega
  · obtain ⟨start, hstart, rfl⟩ := Option.map_eq_some_iff.mp h
    have hrange := List.find?_some hstart
    simp only [Bool.and_eq_true, decide_eq_true_eq] at hrange
    omega

/-- A run has at least one digit. -/
theorem digits_of_digitRun? {cs : List Char} {ds : List Nat} (h : digitRun? cs = some ds) :
    ds ≠ [] ∧ ∀ d ∈ ds, d < 10 := by
  have hcons {c : Char} {rest : List Nat} {d : Nat} (hd : decimalDigit? c = some d)
      (hrest : ∀ d ∈ rest, d < 10) : d :: rest ≠ [] ∧ ∀ d' ∈ d :: rest, d' < 10 := by
    rw [List.forall_mem_cons]
    exact ⟨List.cons_ne_nil d rest, lt_ten_of_decimalDigit? hd, hrest⟩
  fun_induction digitRun? cs generalizing ds with
  | case1 => cases h
  | case2 c =>
      obtain ⟨d, hd, rfl⟩ := Option.map_eq_some_iff.mp h
      exact hcons hd (by simp)
  | case3 c rest ih =>
      simp only [Option.bind_eq_bind, Option.bind_eq_some_iff] at h
      obtain ⟨d, hd, ds, hds, ⟨⟩⟩ := h
      exact hcons hd (ih hds).2
  | case4 c c' rest _ ih =>
      simp only [Option.bind_eq_bind, Option.bind_eq_some_iff] at h
      obtain ⟨d, hd, ds, hds, ⟨⟩⟩ := h
      exact hcons hd (ih hds).2

theorem ofDigits_lt {ds : List Nat} (h : ∀ d ∈ ds, d < 10) :
    ofDigits ds < Nat.pow 10 ds.length := by
  induction ds using List.reverseRecOn with
  | nil => decide
  | append_singleton ds d ih =>
      rw [List.forall_mem_append, List.forall_mem_singleton] at h
      have hfront := ih h.1
      have hdigit := h.2
      have hvalue : ofDigits (ds ++ [d]) = 10 * ofDigits ds + d := by simp [ofDigits]
      have hpow : Nat.pow 10 (ds.length + 1) = Nat.pow 10 ds.length * 10 := rfl
      rw [hvalue, List.length_append, List.length_singleton, hpow]
      omega

/-- What can be read as an integer has no more digits than an integer may have. -/
theorem digitCount_le_of_parseInteger {cs : List Char} {n : Int} (h : parseInteger cs = .ok n) :
    digitCount n ≤ maxIntegerDigits := by
  unfold parseInteger at h
  simp only at h
  split at h
  · cases h
  · next ds hds =>
      split at h
      · cases h
      · next hshort =>
          split at h
          · have hn : n.natAbs = ofDigits ds := by
              cases h
              split <;> simp
            have hdigits := digits_of_digitRun? hds
            have hpos : 0 < ds.length := List.length_pos_iff.mpr hdigits.1
            have hlength : digitCount n ≤ ds.length := by
              rw [digitCount, hn, Nat.length_toDigits_le_iff (by decide) hpos]
              exact ofDigits_lt hdigits.2
            exact hlength.trans (Nat.not_lt.mp hshort)
          · cases h

theorem mem_of_mem_splitSign {c : Char} {cs : List Char} (hc : c ∈ cs) :
    c = '-' ∨ c = '+' ∨ c ∈ (splitSign cs).2 := by
  unfold splitSign
  split
  · simpa using (List.mem_cons.mp hc).imp_right .inr
  · simpa using (List.mem_cons.mp hc).elim (fun h => .inr (.inl h)) (fun h => .inr (.inr h))
  · exact .inr (.inr hc)

/-- All that an integer can be written with: blanks, signs, digits and underscores. -/
theorem written_of_parseInteger {cs : List Char} {n : Int} (h : parseInteger cs = .ok n) {c : Char}
    (hc : c ∈ cs) : isIntegerBlank c ∨ c = '-' ∨ c = '+' ∨ isDigitOrUnderscore c := by
  unfold parseInteger at h
  simp only at h
  split at h
  · cases h
  · split at h
    · cases h
    · split at h
      · next hback =>
          rw [← List.takeWhile_append_dropWhile (p := isIntegerBlank) (l := cs),
            List.mem_append] at hc
          rcases hc with hc | hc
          · exact .inl (List.mem_takeWhile_imp hc)
          rcases mem_of_mem_splitSign hc with hc | hc | hc
          · exact .inr (.inl hc)
          · exact .inr (.inr (.inl hc))
          rw [← List.takeWhile_append_dropWhile (p := isDigitOrUnderscore)
            (l := (splitSign (cs.dropWhile isIntegerBlank)).2), List.mem_append] at hc
          rcases hc with hc | hc
          · exact .inr (.inr (.inr (List.mem_takeWhile_imp hc)))
          · exact .inl (List.all_eq_true.mp hback c hc)
      · cases h

end Datapack.Text
