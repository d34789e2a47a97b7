import Datapack.Diagnostic.Ledger
import Datapack.Proofs.Ordered
import Mathlib.Data.List.Induction

/-! What publications do to a store, and records to a stream. A store that has noted publications
shows for every document the last of them, and a group keeps the records of every document in the
order in which they came. -/

namespace Datapack.Diagnostic

/-! ### Publications among effects -/

/-- The publications among effects, in order. -/
def publications (es : List Effect) : List Publication :=
  es.filterMap fun
    | .publish p => some p
    | _ => none

@[simp] theorem publications_nil : publications [] = [] := rfl

@[simp] theorem publications_append (es fs : List Effect) :
    publications (es ++ fs) = publications es ++ publications fs := by
  simp [publications]

@[simp] theorem publications_publish (p : Publication) (es : List Effect) :
    publications (.publish p :: es) = p :: publications es := rfl

theorem publications_map_publish {α : Type} (f : α → Publication) (xs : List α) :
    publications (xs.map fun x => .publish (f x)) = xs.map f := by
  induction xs with
  | nil => rfl
  | cons x xs ih => rw [List.map_cons, publications_publish, ih, List.map_cons]

theorem publications_of_logs {es : List Effect} (h : ∀ e ∈ es, ∃ entry, e = .log entry) :
    publications es = [] := by
  rw [publications, List.filterMap_eq_nil_iff]
  intro e he
  obtain ⟨entry, rfl⟩ := h e he
  rfl

/-- What was last published for a document. -/
def latest? (u : String) (ps : List Publication) : Option (List Record) :=
  ((ps.filter (·.uri = u)).getLast?).map (·.records)

@[simp] theorem latest?_concat (u : String) (ps : List Publication) (p : Publication) :
    latest? u (ps ++ [p]) = if p.uri = u then some p.records else latest? u ps := by
  by_cases h : p.uri = u <;> simp [latest?, h]

theorem latest?_eq_none_iff {u : String} {ps : List Publication} :
    latest? u ps = none ↔ ∀ p ∈ ps, p.uri ≠ u := by
  simp [latest?]

/-- Where every document is published at most once, each publication is the last of its document. -/
theorem latest?_eq_some_of_mem {ps : List Publication} {p : Publication}
    (hn : (ps.map (·.uri)).Nodup) (hp : p ∈ ps) : latest? p.uri ps = some p.records := by
  induction ps using List.reverseRecOn with
  | nil => simp at hp
  | append_singleton ps q ih =>
      rw [List.map_append, List.nodup_append] at hn
      obtain ⟨hnodup, _, hne⟩ := hn
      rcases List.mem_append.mp hp with hp | hp
      · have hq : q.uri ≠ p.uri := by
          intro h
          exact hne p.uri (List.mem_map_of_mem hp) q.uri (by simp) h.symm
        rw [latest?_concat, if_neg hq]
        exact ih hnodup hp
      · obtain rfl := List.mem_singleton.mp hp
        simp

/-! ### The store -/

namespace Store

/-- Noting a publication changes what stands for its document and nothing else. -/
@[simp] theorem get_note (s : Store) (p : Publication) (u : String) :
    (s.note p).get u = if u = p.uri then p.records else s.get u := by
  by_cases hp : p.records = [] <;> by_cases hu : u = p.uri <;> simp [note, get, hp, hu]

theorem get_eq_nil_of_not_mem {s : Store} {u : String} (h : u ∉ Ordered.keys s) : s.get u = [] := by
  simp [get, Ordered.lookup_eq_none_iff.mpr h]

theorem get_foldl_note (s : Store) (ps : List Publication) (u : String) :
    get (ps.foldl note s) u = (latest? u ps).getD (s.get u) := by
  induction ps using List.reverseRecOn with
  | nil => rfl
  | append_singleton ps p ih =>
      rw [List.foldl_append, List.foldl_cons, List.foldl_nil, get_note, ih, latest?_concat]
      by_cases h : u = p.uri
      · simp [h]
      · have h' : ¬p.uri = u := fun e => h e.symm
        simp [h, h']

end Store

/-! ### The stream, and groups -/

namespace Stream

theorem lookup_append (s : Stream) (r : Record) (u : String) :
    (s.append r).lookup u = if u = r.uri then some (s.get u ++ [r]) else s.lookup u := by
  by_cases h : u = r.uri <;> simp [append, h]

theorem get_append (s : Stream) (r : Record) (u : String) :
    (s.append r).get u = s.get u ++ [r].filter (·.uri = u) := by
  rw [get, lookup_append]
  by_cases h : u = r.uri
  · simp [h]
  · have h' : ¬r.uri = u := fun e => h e.symm
    simp [get, h, h']

end Stream

namespace Ledger

/-- Groups records by uri, in the order in which the uris come. -/
def group (records : List Record) : Ordered (List Record) := records.foldl Stream.append []

theorem group_concat (records : List Record) (r : Record) :
    group (records ++ [r]) = Stream.append (group records) r := by
  simp [group]

theorem get_group (records : List Record) (u : String) :
    Stream.get (group records) u = records.filter (·.uri = u) := by
  induction records using List.reverseRecOn with
  | nil => rfl
  | append_singleton records r ih => rw [group_concat, Stream.get_append, ih, List.filter_append]

theorem keys_group (records : List Record) :
    Ordered.keys (group records) = Ordered.distinct (records.map (·.uri)) := by
  induction records using List.reverseRecOn with
  | nil => rfl
  | append_singleton records r ih =>
      rw [group_concat, Stream.append, Ordered.keys_put, ih, List.map_append, List.map_singleton,
        Ordered.distinct_concat]
      simp

/-- A group lists every document once, in the order of the first records, with all its records. -/
theorem group_eq (records : List Record) :
    group records = (Ordered.distinct (records.map (·.uri))).map fun u =>
      (u, records.filter (·.uri = u)) := by
  rw [← keys_group]
  apply Ordered.eq_map_of_nodup_keys
  · rw [keys_group]
    exact Ordered.nodup_distinct _
  · intro u hu
    obtain ⟨value, hvalue⟩ := Ordered.mem_keys_iff_lookup.mp hu
    have hget := get_group records u
    rw [Stream.get, hvalue, Option.getD_some] at hget
    rw [hvalue, hget]

end Ledger

end Datapack.Diagnostic
