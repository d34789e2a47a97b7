import Datapack.Proofs.Ledger.Passes

/-! Calls on a ledger, whatever the client takes of what they publish. Every record that is kept was
brought by one of the calls, and is kept under its own uri. -/

namespace Datapack.Diagnostic

/-! ### What calls leave -/

/-- What an operation leaves of a ledger, whatever the client takes of it. -/
def Ledger.submit (publisher : Publisher) (t : Ledger) (op : Operation) : Ledger :=
  ((op.work publisher).run t).1

/-- Operations, each with what the client takes of its publications. -/
abbrev Calls := List (Publisher × Operation)

/-- What calls leave, one after the other. -/
def Ledger.submitAll (t : Ledger) (calls : Calls) : Ledger :=
  calls.foldl (fun t call => t.submit call.1 call.2) t

/-! ### What calls bring -/

/-- An operation makes a record of a finding in the file. -/
inductive Operation.Brings (path : String) (r : Record) : Operation → Prop
  | line {docs : Documents} {files : FileTree} {raw : String} {f : Finding}
      (hread : readErrorLine raw = .ok (some f)) (hfile : f.file = path)
      (hrecord : Ledger.recordOf docs files f = .ok r) : Brings path r (.takeLine docs files raw)
  | entry {docs : Documents} {files : FileTree} {folder : Path} {report : Option Report}
      {f : Finding} (hentry : f ∈ (report.map (·.errors)).getD [])
      (hfile : (f.within folder).file = path)
      (hrecord : Ledger.recordOf docs files (f.within folder) = .ok r) :
      Brings path r (.enterReport docs files folder report)

theorem Operation.Brings.ofPath_eq {path : String} {r : Record} {op : Operation}
    (h : op.Brings path r) : Uri.ofPath path = .ok r.uri := by
  cases h with
  | line hread hfile hrecord => exact hfile ▸ uri_of_recordOf hrecord
  | entry hentry hfile hrecord => exact hfile ▸ uri_of_recordOf hrecord

theorem Operation.brings_of_lineRecord? {docs : Documents} {files : FileTree} {raw : String}
    {r : Record} (h : lineRecord? docs files raw = some r) :
    ∃ path, (takeLine docs files raw).Brings path r := by
  unfold lineRecord? at h
  split at h
  · next f hread =>
      cases hrecord : Ledger.recordOf docs files f with
      | error e => simp [hrecord, Except.toOption] at h
      | ok r' =>
          rw [hrecord, Except.toOption, Option.some.injEq] at h
          subst r'
          exact ⟨f.file, .line hread rfl hrecord⟩
  · cases h

theorem Operation.brings_of_mem_reportRecords {docs : Documents} {files : FileTree}
    {folder : Path} {report : Option Report} {records : List Record}
    (h : Ledger.reportRecords docs files folder ((report.map (·.errors)).getD []) = .ok records)
    {r : Record} (hr : r ∈ records) :
    ∃ path, (enterReport docs files folder report).Brings path r := by
  obtain ⟨f, hf, hrecord⟩ := exists_of_mem_of_mapM_ok h hr
  exact ⟨(f.within folder).file, .entry hf rfl hrecord⟩

/-- Some call makes a record of a finding in the file. -/
def Calls.Bring (calls : Calls) (path : String) (r : Record) : Prop :=
  ∃ call ∈ calls, call.2.Brings path r

theorem Calls.Bring.ofPath_eq {calls : Calls} {path : String} {r : Record}
    (h : calls.Bring path r) : Uri.ofPath path = .ok r.uri := by
  obtain ⟨_, _, hbrings⟩ := h
  exact hbrings.ofPath_eq

/-- The store or the stream holds a record. -/
def Ledger.Holds (t : Ledger) (r : Record) : Prop :=
  ∃ u, r ∈ t.store.get u ∨ r ∈ t.stream.get u

/-- The store or the stream lists a record under a uri. -/
def Ledger.Lists (t : Ledger) (u : String) (r : Record) : Prop :=
  r ∈ t.store.get u ∨ r ∈ t.stream.get u

/-! ### What is kept under a uri -/

/-- Every record is as it must be for the uri that it is kept under. -/
def EachRecord (P : String → Record → Prop) (m : Ordered (List Record)) : Prop :=
  ∀ p ∈ m, ∀ r ∈ p.2, P p.1 r

section

variable {P : String → Record → Prop}

namespace EachRecord

variable {m : Ordered (List Record)}

theorem get (h : EachRecord P m) {u : String} {r : Record} (hr : r ∈ (m.lookup u).getD []) :
    P u r := by
  cases hlookup : m.lookup u with
  | none => simp [hlookup] at hr
  | some records =>
      rw [hlookup, Option.getD_some] at hr
      obtain ⟨before, after, rfl, _⟩ := List.lookup_eq_some_iff.mp hlookup
      exact h (u, records) (by simp) r hr

theorem remove (h : EachRecord P m) (uri : String) : EachRecord P (Ordered.remove uri m) :=
  fun p hp => h p (List.mem_of_mem_filter hp)

theorem put (h : EachRecord P m) {uri : String} {records : List Record}
    (hrecords : ∀ r ∈ records, P uri r) : EachRecord P (Ordered.put uri records m) := by
  intro p hp
  rcases Ordered.eq_or_mem_of_mem_put hp with rfl | hp
  · exact hrecords
  · exact h p hp

theorem note (h : EachRecord P m) {p : Publication} (hp : ∀ r ∈ p.records, P p.uri r) :
    EachRecord P (Store.note m p) := by
  unfold Store.note
  split
  · exact h.remove p.uri
  · exact h.put hp

theorem publishAll (h : EachRecord P m) (publisher : Publisher) {es : List Effect}
    (hes : ∀ p ∈ publications es, ∀ r ∈ p.records, P p.uri r) :
    EachRecord P (publishAll publisher m es).1 := by
  induction es generalizing m with
  | nil => exact h
  | cons e es ih =>
      cases e with
      | publish p =>
          rw [publications_publish, List.forall_mem_cons] at hes
          have hnote := h.note hes.1
          cases hp : publisher p with
          | error fault => simpa only [Diagnostic.publishAll, hp] using hnote
          | ok _ => simpa only [Diagnostic.publishAll, hp] using ih hnote hes.2
      | _ => exact ih h hes

theorem append (h : EachRecord P m) {r : Record} (hr : P r.uri r) :
    EachRecord P (Stream.append m r) := by
  refine h.put fun r' hr' => ?_
  rcases List.mem_append.mp hr' with hr' | hr'
  · exact h.get hr'
  · exact List.mem_singleton.mp hr' ▸ hr

end EachRecord

/-- Every record in the store and in the stream is as it must be for its uri. -/
structure Ledger.Each (P : String → Record → Prop) (t : Ledger) : Prop where
  store : EachRecord P t.store
  stream : EachRecord P t.stream

/-- A change publishes records only as they must be for their uris, and keeps the stream so. -/
structure Change.Each {α : Type} (P : String → Record → Prop) (c : Change α) : Prop where
  published : ∀ p ∈ publications c.effects, ∀ r ∈ p.records, P p.uri r
  stream : EachRecord P c.stream

theorem Change.Each.map {α β : Type} {c : Change α} (h : c.Each P) (f : α → β) :
    (c.map f).Each P :=
  ⟨h.published, h.stream⟩

theorem each_clearings (us : List String) :
    ∀ p ∈ us.map (fun u => (⟨u, []⟩ : Publication)), ∀ r ∈ p.records, P p.uri r := by
  intro p hp r hr
  obtain ⟨u, _, rfl⟩ := List.mem_map.mp hp
  cases hr

theorem each_reportPublications {records : List Record} (h : ∀ r ∈ records, P r.uri r)
    (t : Ledger) (openUris : List String) (folderUri : String) :
    ∀ p ∈ t.reportPublications openUris folderUri records, ∀ r ∈ p.records, P p.uri r := by
  intro p hp
  rcases List.mem_append.mp hp with hp | hp
  · exact each_clearings _ p hp
  · obtain ⟨u, _, rfl⟩ := List.mem_map.mp hp
    intro r hr
    obtain ⟨hmem, hu⟩ := List.mem_filter.mp hr
    exact of_decide_eq_true hu ▸ h r hmem

namespace Ledger.Each

variable {t : Ledger} {docs : Documents} {files : FileTree}

theorem of_lists (h : t.Each P) {u : String} {r : Record} (hlists : t.Lists u r) : P u r :=
  hlists.elim h.store.get h.stream.get

theorem empty : Each P {} := by
  refine ⟨?_, ?_⟩ <;> exact fun p hp => absurd hp List.not_mem_nil

theorem passPlan (t : Ledger) (extra : List String) : (t.passPlan extra).Each P where
  published := by
    simp only [Ledger.passPlan, publications_map_publish]
    exact each_clearings _
  stream := empty.stream

theorem linePlan (h : t.Each P) {raw : String} {c : Change (Option Record)}
    (hrecord : ∀ r, lineRecord? docs files raw = some r → P r.uri r)
    (hline : t.linePlan docs files raw = .ok c) : c.Each P := by
  rcases t.linePlan_cases docs files raw with
    ⟨_, ⟨e, hfails⟩ | ⟨logged, hlogs, _, hstream, heffects⟩⟩ | ⟨record, hsome, hbrings⟩
  · rw [hline] at hfails
    cases hfails
  · rw [hline, Except.ok.injEq] at hlogs
    subst logged
    refine ⟨by simp [publications_of_logs heffects], ?_⟩
    rw [hstream]
    exact h.stream
  · rw [hline, Except.ok.injEq] at hbrings
    subst c
    have hstream := h.stream.append (hrecord record hsome)
    have hshown : ∀ r ∈ (t.stream.append record).get record.uri, P record.uri r :=
      fun r hr => hstream.get hr
    exact ⟨by simpa using hshown, hstream⟩

theorem reportPlan (h : t.Each P) {folder : Path} {report : Option Report}
    {c : Change (Ordered (List Record))}
    (hrecords : ∀ records,
      reportRecords docs files folder ((report.map (·.errors)).getD []) = .ok records →
        ∀ r ∈ records, P r.uri r)
    (hreport : t.reportPlan docs files folder report = .ok c) : c.Each P := by
  obtain ⟨records, folderUri, openUris, hok, _, _, hstream, _, hpublished⟩ := reportPlan_ok hreport
  refine ⟨?_, ?_⟩
  · rw [hpublished]
    exact each_reportPublications (hrecords records hok) t openUris folderUri
  · rw [hstream]
    exact h.stream

theorem closePlan (h : t.Each P) (uri : String) : (t.closePlan uri).Each P where
  published := each_clearings [uri]
  stream := h.stream.remove uri

/-- What is planned is as it must be, if all records that are brought are. -/
theorem plan (h : t.Each P) {op : Operation} (hbrings : ∀ path r, op.Brings path r → P r.uri r)
    {c : Change (List Record)} (hc : op.plan t = .ok c) : c.Each P := by
  cases op with
  | openPass extra =>
      cases hc
      exact (passPlan t extra).map _
  | takeLine docs files raw =>
      obtain ⟨line, hline, rfl⟩ := map_eq_ok_iff.mp hc
      refine (h.linePlan (fun r hr => ?_) hline).map _
      obtain ⟨path, hpath⟩ := Operation.brings_of_lineRecord? hr
      exact hbrings path r hpath
  | clearStream =>
      cases hc
      exact ⟨nofun, empty.stream⟩
  | enterReport docs files folder report =>
      obtain ⟨grouped, hgrouped, rfl⟩ := map_eq_ok_iff.mp hc
      refine (h.reportPlan (fun records hrecords r hr => ?_) hgrouped).map _
      obtain ⟨path, hentry⟩ := Operation.brings_of_mem_reportRecords hrecords hr
      exact hbrings path r hentry
  | close uri =>
      cases hc
      exact (h.closePlan uri).map _

/-- An operation keeps what holds of all records that it brings. -/
theorem submit (h : t.Each P) (publisher : Publisher) {op : Operation}
    (hbrings : ∀ path r, op.Brings path r → P r.uri r) : (t.submit publisher op).Each P := by
  rw [Ledger.submit, op.run_work]
  cases hplan : op.plan t with
  | error e => exact h
  | ok c =>
      have hc := h.plan hbrings hplan
      exact ⟨h.store.publishAll publisher hc.published, hc.stream⟩

theorem submitAll (h : t.Each P) {calls : Calls}
    (hbring : ∀ path r, calls.Bring path r → P r.uri r) : (t.submitAll calls).Each P := by
  induction calls generalizing t with
  | nil => exact h
  | cons call calls ih =>
      refine ih (h.submit call.1 fun path r hr => ?_) fun path r hr => ?_
      · exact hbring path r ⟨call, List.mem_cons_self, hr⟩
      · obtain ⟨later, hlater, hr⟩ := hr
        exact hbring path r ⟨later, List.mem_cons_of_mem _ hlater, hr⟩

end Ledger.Each

end

/-- Calls keep what they bring, each record under its own uri, and nothing else. -/
theorem Ledger.each_submitAll (calls : Calls) :
    (submitAll {} calls).Each fun u r => r.uri = u ∧ ∃ path, calls.Bring path r :=
  Each.empty.submitAll fun path _ hr => ⟨rfl, path, hr⟩

end Datapack.Diagnostic
