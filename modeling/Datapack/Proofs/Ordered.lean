import Datapack.Ordered
import Mathlib.Data.List.Nodup

/-! Ordered maps seen through `lookup`: `put` and `remove` change one key and no other, and
`distinct` lists the same keys, each once. None of this needs the keys of the map to be distinct. -/

namespace Datapack.Ordered

variable {α : Type}

/-! ### Looking keys up -/

theorem lookup_cons_ite (other key : String) (value : α) (m : Ordered α) :
    List.lookup other ((key, value) :: m) = if other = key then some value else m.lookup other := by
  rw [List.lookup_cons]
  by_cases h : other = key
  · simp [h]
  · simp [beq_false_of_ne h, h]

theorem mem_keys_iff_lookup {m : Ordered α} {key : String} :
    key ∈ keys m ↔ ∃ value, m.lookup key = some value := by
  induction m with
  | nil => simp [keys]
  | cons p m ih =>
      obtain ⟨k, v⟩ := p
      simp only [keys, List.map_cons, List.mem_cons] at ih ⊢
      by_cases h : key = k <;> simp [lookup_cons_ite, h, ih]

theorem lookup_eq_none_iff {m : Ordered α} {key : String} : m.lookup key = none ↔ key ∉ keys m := by
  rw [mem_keys_iff_lookup, ← Option.isSome_iff_exists, Option.not_isSome_iff_eq_none]

@[simp] theorem lookup_put (key other : String) (value : α) (m : Ordered α) :
    (put key value m).lookup other = if other = key then some value else m.lookup other := by
  induction m with
  | nil => simp [put, lookup_cons_ite]
  | cons p m ih =>
      obtain ⟨k, v⟩ := p
      by_cases hk : k = key
      · subst k
        by_cases h : other = key <;> simp [put, lookup_cons_ite, h]
      · by_cases h : other = k
        · subst other
          simp [put, hk]
        · simp [put, lookup_cons_ite, hk, h, ih]

@[simp] theorem lookup_remove (key other : String) (m : Ordered α) :
    (remove key m).lookup other = if other = key then none else m.lookup other := by
  induction m with
  | nil => simp [remove]
  | cons p m ih =>
      obtain ⟨k, v⟩ := p
      simp only [remove, List.filter_cons] at ih ⊢
      by_cases hk : k = key
      · subst k
        by_cases h : other = key
        · simpa [h] using ih
        · simpa [lookup_cons_ite, h] using ih
      · by_cases h : other = k
        · subst other
          simp [hk]
        · simp [lookup_cons_ite, hk, h, ih]

/-! ### Keys in order -/

/-- A key that is there keeps its place, and a new one goes last. -/
theorem keys_put (key : String) (value : α) (m : Ordered α) :
    keys (put key value m) = if key ∈ keys m then keys m else keys m ++ [key] := by
  induction m with
  | nil => simp [put, keys]
  | cons p m ih =>
      obtain ⟨k, v⟩ := p
      by_cases hk : k = key
      · subst k
        simp [put, keys]
      · have hk' : ¬key = k := fun h => hk h.symm
        simp only [keys] at ih
        by_cases h : key ∈ m.map (·.1) <;> simp only [put, keys, hk, h, if_false, if_true, ih,
          List.map_cons, List.mem_cons, hk', false_or, List.cons_append]

@[simp] theorem mem_distinct {key : String} (ks : List String) : key ∈ distinct ks ↔ key ∈ ks := by
  induction ks with
  | nil => simp [distinct]
  | cons k ks ih =>
      by_cases h : key = k <;> simp [distinct, ih, h]

theorem distinct_concat (ks : List String) (key : String) :
    distinct (ks ++ [key]) = if key ∈ ks then distinct ks else distinct ks ++ [key] := by
  induction ks with
  | nil => simp [distinct]
  | cons k ks ih =>
      rw [List.cons_append, distinct, distinct, ih]
      by_cases hk : key = k
      · subst k
        by_cases h : key ∈ ks <;> simp [h]
      · by_cases h : key ∈ ks <;> simp [h, hk]

theorem nodup_distinct (ks : List String) : (distinct ks).Nodup := by
  induction ks with
  | nil => simp [distinct]
  | cons k ks ih =>
      rw [distinct, List.nodup_cons]
      exact ⟨by simp, ih.filter _⟩

/-- What is in a map after a change was put there, or was in it before. -/
theorem eq_or_mem_of_mem_put {key : String} {value : α} {m : Ordered α}
    {p : String × α} (h : p ∈ put key value m) : p = (key, value) ∨ p ∈ m := by
  induction m with
  | nil => exact .inl (List.mem_singleton.mp h)
  | cons q m ih =>
      obtain ⟨k, v⟩ := q
      rw [put] at h
      split at h
      · next hk =>
          rcases List.mem_cons.mp h with rfl | h
          · exact .inl (by rw [hk])
          · exact .inr (List.mem_cons_of_mem _ h)
      · rcases List.mem_cons.mp h with rfl | h
        · exact .inr List.mem_cons_self
        · exact (ih h).imp_right (List.mem_cons_of_mem _)

/-- A map whose keys are distinct lists each key once, with the value that is looked up. -/
theorem eq_map_of_nodup_keys {m : Ordered α} (h : (keys m).Nodup) (value : String → α)
    (hv : ∀ key ∈ keys m, m.lookup key = some (value key)) :
    m = (keys m).map fun key => (key, value key) := by
  induction m with
  | nil => rfl
  | cons p m ih =>
      obtain ⟨k, v⟩ := p
      simp only [keys, List.map_cons, List.nodup_cons] at h ih hv ⊢
      have hk : v = value k := by simpa [lookup_cons_ite] using hv k (by simp)
      have htail : ∀ key ∈ m.map (·.1), m.lookup key = some (value key) := by
        intro key hkey
        have hne : key ≠ k := by
          rintro rfl
          exact h.1 hkey
        simpa [lookup_cons_ite, hne] using hv key (by simp [hkey])
      rw [← ih h.2 htail, hk]

end Datapack.Ordered
