import Datapack.Proofs.Ledger.History
import Datapack.Proofs.Ledger.Passes
import Datapack.Proofs.Ledger.Refusals
import Mathlib.Data.List.Pairwise
import Mathlib.Data.List.Perm.Basic

/-! Folders that keep apart. The documents inside a folder are told by a prefix of their uris, so
two folders either have no document in common or one of them lies within the other. Reports of
folders that keep apart, each of which stays within its folder, change different documents: their
order does not matter. -/

namespace Datapack

open Text

/-! ### Folders as prefixes -/

theorem Text.exists_replicate_of_dropEndWhile (mark : Char) (cs : List Char) :
    ∃ n, cs = dropEndWhile (· == mark) cs ++ List.replicate n mark := by
  refine ⟨(cs.reverse.takeWhile (· == mark)).length, ?_⟩
  have hmarks : cs.reverse.takeWhile (· == mark) =
      List.replicate (cs.reverse.takeWhile (· == mark)).length mark := by
    rw [List.eq_replicate_iff]
    exact ⟨rfl, fun c hc => by simpa using List.mem_takeWhile_imp hc⟩
  rw [dropEndWhile, ← List.reverse_inj, List.reverse_append, List.reverse_reverse,
    List.reverse_replicate, ← hmarks, List.takeWhile_append_dropWhile]

namespace Uri

/-- The text with which all uris inside a folder start. -/
def folderPrefix (folder : String) : List Char :=
  dropEndWhile (· == '/') folder.toList ++ ['/']

theorem isInside_iff {uri folder : String} :
    isInside uri folder ↔ folderPrefix folder <+: uri.toList := by
  rw [isInside, List.isPrefixOf_iff_prefix, folderPrefix]

/-- A folder's uri that ends in a slash lies inside every folder with the same prefix. -/
theorem bare_or_isInside_of_folderPrefix_eq {f g : String} (h : folderPrefix f = folderPrefix g) :
    f.toList = dropEndWhile (· == '/') f.toList ∨ isInside f g := by
  obtain ⟨n, hn⟩ := exists_replicate_of_dropEndWhile '/' f.toList
  cases n with
  | zero => exact .inl (by simpa using hn)
  | succ n =>
      refine .inr (isInside_iff.mpr ⟨List.replicate n '/', ?_⟩)
      rw [← h, folderPrefix, List.append_assoc]
      exact hn.symm

/-- The prefix of a folder that starts the prefix of another one either is that prefix or starts the
other folder's uri. -/
theorem isInside_of_folderPrefix_prefix {f g : String} (h : folderPrefix f <+: folderPrefix g) :
    folderPrefix f = folderPrefix g ∨ isInside g f := by
  rcases List.prefix_concat_iff.mp h with heq | hprefix
  · exact .inl heq
  · obtain ⟨n, hn⟩ := exists_replicate_of_dropEndWhile '/' g.toList
    exact .inr (isInside_iff.mpr (hn ▸ hprefix.trans (List.prefix_append _ _)))

/-- Two folders with a document in common are equal, or one lies within the other. -/
theorem eq_or_isInside_of_common {u f g : String} (hf : isInside u f) (hg : isInside u g) :
    f = g ∨ isInside f g ∨ isInside g f := by
  rw [isInside_iff] at hf hg
  have hsame (h : folderPrefix f = folderPrefix g) : f = g ∨ isInside f g ∨ isInside g f := by
    rcases bare_or_isInside_of_folderPrefix_eq h with hbare | hin
    · rcases bare_or_isInside_of_folderPrefix_eq h.symm with hbare' | hin
      · exact .inl (String.toList_inj.mp (by rw [hbare, List.append_cancel_right h, ← hbare']))
      · exact .inr (.inr hin)
    · exact .inr (.inl hin)
  rcases List.prefix_or_prefix_of_prefix hf hg with h | h
  · rcases isInside_of_folderPrefix_prefix h with heq | hin
    · exact hsame heq
    · exact .inr (.inr hin)
  · rcases isInside_of_folderPrefix_prefix h with heq | hin
    · exact hsame heq.symm
    · exact .inr (.inl hin)

end Uri

namespace Diagnostic

/-! ### One report -/

/-- A report of a folder, with the documents and files at the time when it is entered, all of whose
entries are of documents inside the folder. -/
structure HomeReport where
  docs : Documents
  files : FileTree
  folder : Path
  report : Option Report
  folderUri : String
  openUris : List String
  records : List Record
  folder_uri : Uri.ofPath folder.toText = .ok folderUri
  open_uris : docs.openUris = .ok openUris
  entries : Ledger.reportRecords docs files folder ((report.map (·.errors)).getD []) = .ok records
  home : ∀ r ∈ records, Uri.isInside r.uri folderUri

namespace HomeReport

def operation (h : HomeReport) : Operation := .enterReport h.docs h.files h.folder h.report

/-- What the report says about a document: its entries for it, in their order. -/
def about (h : HomeReport) (u : String) : List Record := h.records.filter (·.uri = u)

/-- Neither folder is the other one or lies within it. -/
def Apart (h h' : HomeReport) : Prop :=
  h.folderUri ≠ h'.folderUri ∧ Uri.isInside h.folderUri h'.folderUri = false ∧
    Uri.isInside h'.folderUri h.folderUri = false

theorem Apart.symm {h h' : HomeReport} (hapart : h.Apart h') : h'.Apart h :=
  ⟨hapart.1.symm, hapart.2.2, hapart.2.1⟩

/-- No document lies inside both of two folders that keep apart. -/
theorem Apart.not_isInside {h h' : HomeReport} (hapart : h.Apart h') {u : String}
    (hu : Uri.isInside u h.folderUri) : Uri.isInside u h'.folderUri = false := by
  rw [← Bool.not_eq_true]
  intro hu'
  obtain ⟨hne, hnot, hnot'⟩ := hapart
  rcases Uri.eq_or_isInside_of_common hu hu' with heq | hin | hin
  · exact hne heq
  · exact Bool.false_ne_true (hnot.symm.trans hin)
  · exact Bool.false_ne_true (hnot'.symm.trans hin)

variable {h : HomeReport} {homes : List HomeReport} {u : String}

theorem about_eq_nil (hu : u ∉ h.records.map (·.uri)) : h.about u = [] := by
  rw [about, List.filter_eq_nil_iff]
  intro r hr hru
  exact hu (List.mem_map.mpr ⟨r, hr, of_decide_eq_true hru⟩)

/-! ### One step, and many -/

theorem isOk_perform (h : HomeReport) (t : Ledger) : (t.perform h.operation).result.isOk :=
  (Ledger.perform_enterReport h.folder_uri h.open_uris h.entries t).1

/-- A report settles what stands inside its folder, whatever stood there, and nothing else. -/
theorem store_perform (h : HomeReport) (t : Ledger) (u : String) :
    (t.perform h.operation).after.store.get u =
      if Uri.isInside u h.folderUri then h.about u else t.store.get u := by
  rw [operation, (Ledger.perform_enterReport h.folder_uri h.open_uris h.entries t).2]
  by_cases hu : u ∈ h.records.map (·.uri)
  · obtain ⟨r, hr, rfl⟩ := List.mem_map.mp hu
    rw [if_pos hu, if_pos (h.home r hr), about]
  · rw [if_neg hu, about_eq_nil hu]

theorem isOk_history (homes : List HomeReport) (t : Ledger) :
    ∀ e ∈ t.history (homes.map operation), e.result.isOk := by
  induction homes generalizing t with
  | nil => simp
  | cons h homes ih =>
      rw [List.map_cons, Ledger.history, List.forall_mem_cons]
      exact ⟨h.isOk_perform t, ih _⟩

/-- What lies in none of the folders stays as it was. -/
theorem store_run_of_outside (hu : ∀ h ∈ homes, Uri.isInside u h.folderUri = false) (t : Ledger) :
    (t.run (homes.map operation)).store.get u = t.store.get u := by
  induction homes generalizing t with
  | nil => rfl
  | cons h homes ih =>
      rw [List.forall_mem_cons] at hu
      rw [List.map_cons, Ledger.run_cons, ih hu.2, store_perform, if_neg (by simp [hu.1])]

/-- What lies in one of the folders is settled by its report: those before it are overwritten, and
those after it leave it alone. -/
theorem store_run_of_inside (hapart : homes.Pairwise Apart) (hh : h ∈ homes)
    (hu : Uri.isInside u h.folderUri) (t : Ledger) :
    (t.run (homes.map operation)).store.get u = h.about u := by
  induction homes generalizing t with
  | nil => exact absurd hh List.not_mem_nil
  | cons first homes ih =>
      obtain ⟨hfirst, hrest⟩ := List.pairwise_cons.mp hapart
      rw [List.map_cons, Ledger.run_cons]
      rcases List.mem_cons.mp hh with rfl | hh
      · rw [store_run_of_outside fun h' hh' => (hfirst h' hh').not_isInside hu, store_perform,
          if_pos hu]
      · exact ih hrest hh _

end HomeReport

/-- Reports of folders none of which is another one or lies within another one, each with entries of
its own folder only: in every order they are all taken, and then each folder shows its own report
and nothing else, and all outside of the folders is as it was before. So any two orders agree. -/
theorem store_after_homeReports {homes : List HomeReport} (hapart : homes.Pairwise HomeReport.Apart)
    (t : Ledger) :
    (∀ order : List HomeReport, order.Perm homes →
      (∀ e ∈ t.history (order.map HomeReport.operation), e.result.isOk) ∧
      ∀ u,
        (∀ h ∈ homes, Uri.isInside u h.folderUri →
          (t.run (order.map HomeReport.operation)).store.get u = h.about u) ∧
        ((∀ h ∈ homes, Uri.isInside u h.folderUri = false) →
          (t.run (order.map HomeReport.operation)).store.get u = t.store.get u)) ∧
    ∀ order order' : List HomeReport, order.Perm homes → order'.Perm homes → ∀ u,
      (t.run (order.map HomeReport.operation)).store.get u =
        (t.run (order'.map HomeReport.operation)).store.get u := by
  have hinside {order : List HomeReport} (hperm : order.Perm homes) {h : HomeReport}
      (hh : h ∈ homes) {u : String} (hu : Uri.isInside u h.folderUri) :
      (t.run (order.map HomeReport.operation)).store.get u = h.about u :=
    HomeReport.store_run_of_inside (hperm.symm.pairwise hapart HomeReport.Apart.symm)
      (hperm.mem_iff.mpr hh) hu t
  have houtside {order : List HomeReport} (hperm : order.Perm homes) {u : String}
      (hu : ∀ h ∈ homes, Uri.isInside u h.folderUri = false) :
      (t.run (order.map HomeReport.operation)).store.get u = t.store.get u :=
    HomeReport.store_run_of_outside (fun h hh => hu h (hperm.mem_iff.mp hh)) t
  refine ⟨?_, ?_⟩
  · intro order hperm
    exact ⟨HomeReport.isOk_history order t, fun u =>
      ⟨fun h hh hu => hinside hperm hh hu, houtside hperm⟩⟩
  · intro order order' hperm hperm' u
    by_cases hu : ∀ h ∈ homes, Uri.isInside u h.folderUri = false
    · rw [houtside hperm hu, houtside hperm' hu]
    · obtain ⟨h, hh, hin⟩ : ∃ h ∈ homes, Uri.isInside u h.folderUri := by simpa using hu
      rw [hinside hperm hh hin, hinside hperm' hh hin]

/-- A report of `/ws/a` with one error. -/
def shortHome : HomeReport where
  docs := .given [("file:///ws/ab/new.dps", "")] []
  files := {}
  folder := ⟨.slash, ["ws", "a"]⟩
  report := some { errors := [⟨"b.dps", 3, 2, "bad"⟩], suggestions := [] }
  folderUri := "file:///ws/a"
  openUris := ["file:///ws/ab/new.dps"]
  records := [{ uri := "file:///ws/a/b.dps", line := 2, column := 2, message := "bad" }]
  folder_uri := rfl
  open_uris := rfl
  entries := rfl
  home := by decide +kernel

/-- No report of `/ws/ab`, whose uri starts with that of `/ws/a`. -/
def longHome : HomeReport where
  docs := .given [("file:///ws/ab/new.dps", "")] []
  files := {}
  folder := ⟨.slash, ["ws", "ab"]⟩
  report := none
  folderUri := "file:///ws/ab"
  openUris := ["file:///ws/ab/new.dps"]
  records := []
  folder_uri := rfl
  open_uris := rfl
  entries := rfl
  home := by decide +kernel

/-- A ledger with diagnostics in both folders and outside of them. -/
def spreadLedger : Ledger :=
  { store := ["file:///ws/a/c.dps", "file:///ws/ab/c.dps", "file:///ws/c.dps"].map fun uri =>
      (uri, [{ uri, line := 0, column := 0, message := "old" }]) }

theorem store_after_shortHome_longHome :
    [shortHome, longHome].Pairwise HomeReport.Apart ∧
    ∀ order : List HomeReport, order = [shortHome, longHome] ∨ order = [longHome, shortHome] →
      let store := (spreadLedger.run (order.map HomeReport.operation)).store
      store.get "file:///ws/a/b.dps" = shortHome.records ∧ store.get "file:///ws/a/c.dps" = [] ∧
      store.get "file:///ws/ab/c.dps" = [] ∧
      store.get "file:///ws/c.dps" = spreadLedger.store.get "file:///ws/c.dps" := by
  have hapart : [shortHome, longHome].Pairwise HomeReport.Apart := by
    refine List.pairwise_pair.mpr ⟨?_, ?_, ?_⟩ <;> decide +kernel
  refine ⟨hapart, ?_⟩
  intro order horder store
  have hperm : order.Perm [shortHome, longHome] := by
    rcases horder with rfl | rfl
    · exact .refl _
    · exact .swap _ _ _
  have hstore (u : String) := (((store_after_homeReports hapart spreadLedger).1 order hperm).2 u)
  refine ⟨?_, ?_, ?_, ?_⟩
  · rw [(hstore _).1 shortHome (by simp) (by decide +kernel)]
    decide +kernel
  · rw [(hstore _).1 shortHome (by simp) (by decide +kernel)]
    decide +kernel
  · rw [(hstore _).1 longHome (by simp) (by decide +kernel)]
    decide +kernel
  · exact (hstore _).2 (by decide +kernel)

end Diagnostic

end Datapack
