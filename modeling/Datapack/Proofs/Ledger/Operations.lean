import Datapack.Proofs.Ledger.Plans

/-! The operations on a ledger, and what each of them does: to the stream, to the store, and to what
is published. A publication is the only way to change the store. -/

namespace Datapack.Diagnostic

/-! ### A line -/

/-- The record of a line of compiler output, if it is an error line that can be placed. -/
def lineRecord? (docs : Documents) (files : FileTree) (raw : String) : Option Record :=
  match readErrorLine raw with
  | .ok (some finding) => (Ledger.recordOf docs files finding).toOption
  | _ => none

/-- A line with a record is streamed and its document published; all other lines leave the stream
alone and are logged at most, whether they fail or not. -/
theorem Ledger.linePlan_cases (docs : Documents) (files : FileTree) (t : Ledger) (raw : String) :
    (lineRecord? docs files raw = none ∧
      ((∃ e, t.linePlan docs files raw = .error e) ∨
        ∃ c, t.linePlan docs files raw = .ok c ∧ c.value = none ∧ c.stream = t.stream ∧
          ∀ e ∈ c.effects, ∃ entry, e = .log entry)) ∨
    ∃ r, lineRecord? docs files raw = some r ∧
      t.linePlan docs files raw = .ok ⟨t.stream.append r,
        [.publish ⟨r.uri, (t.stream.append r).get r.uri⟩], some r⟩ := by
  unfold linePlan lineRecord?
  cases hread : readErrorLine raw with
  | error e => exact .inl ⟨rfl, .inr ⟨_, rfl, rfl, rfl, by simp [Effect.warning]⟩⟩
  | ok finding =>
      cases finding with
      | none =>
          refine .inl ⟨rfl, .inr ⟨_, rfl, rfl, rfl, ?_⟩⟩
          simp only
          split <;> simp [Effect.info]
      | some finding =>
          cases hrecord : recordOf docs files finding with
          | error e =>
              refine .inl ⟨by simp [hrecord, Except.toOption], .inl ⟨e, ?_⟩⟩
              simp [hrecord, bind, Except.bind]
          | ok r =>
              refine .inr ⟨r, by simp [hrecord, Except.toOption], ?_⟩
              simp [hrecord, bind, Except.bind, pure, Except.pure]

/-! ### A report -/

theorem Ledger.mem_cleared {t : Ledger} {openUris : List String} {folderUri u : String}
    {records : List Record} :
    u ∈ t.cleared openUris folderUri records ↔
      (u ∈ openUris ∨ u ∈ Ordered.keys t.store) ∧ u ∉ records.map (·.uri) ∧
        Uri.isInside u folderUri := by
  simp only [cleared, List.mem_filter, Ordered.mem_distinct, List.mem_append, keys_group,
    Bool.and_eq_true, Bool.not_eq_true', List.contains_eq_mem, decide_eq_false_iff_not]

/-- What a report publishes: first the documents it clears, then the documents it names with all
their records, in the order in which it names them. -/
def Ledger.reportPublications (t : Ledger) (openUris : List String) (folderUri : String)
    (records : List Record) : List Publication :=
  (t.cleared openUris folderUri records).map (fun u => ⟨u, []⟩) ++
    (Ordered.distinct (records.map (·.uri))).map fun u => ⟨u, records.filter (·.uri = u)⟩

/-- A report publishes every document at most once. -/
theorem Ledger.nodup_reportPublications (t : Ledger) (openUris : List String) (folderUri : String)
    (records : List Record) :
    ((t.reportPublications openUris folderUri records).map (·.uri)).Nodup := by
  have hcleared : (t.cleared openUris folderUri records).Nodup := (Ordered.nodup_distinct _).filter _
  have hnamed := Ordered.nodup_distinct (records.map (·.uri))
  simp only [reportPublications, List.map_append, List.map_map, Function.comp_def, List.map_id']
  refine hcleared.append hnamed ?_
  intro u hu hnamed
  exact (mem_cleared.mp hu).2.1 ((Ordered.mem_distinct _).mp hnamed)

theorem Ledger.latest?_reportPublications (t : Ledger) (openUris : List String) (folderUri : String)
    (records : List Record) (u : String) :
    latest? u (t.reportPublications openUris folderUri records) =
      if u ∈ records.map (·.uri) then some (records.filter (·.uri = u))
      else if u ∈ t.cleared openUris folderUri records then some [] else none := by
  have hn := t.nodup_reportPublications openUris folderUri records
  by_cases hu : u ∈ records.map (·.uri)
  · rw [if_pos hu]
    refine latest?_eq_some_of_mem hn (p := ⟨u, records.filter (·.uri = u)⟩) ?_
    exact List.mem_append_right _ (List.mem_map_of_mem ((Ordered.mem_distinct _).mpr hu))
  · rw [if_neg hu]
    by_cases hc : u ∈ t.cleared openUris folderUri records
    · rw [if_pos hc]
      refine latest?_eq_some_of_mem hn (p := ⟨u, []⟩) ?_
      exact List.mem_append_left _ (List.mem_map_of_mem hc)
    · rw [if_neg hc, latest?_eq_none_iff]
      intro p hp
      rcases List.mem_append.mp hp with hp | hp
      · obtain ⟨v, hv, rfl⟩ := List.mem_map.mp hp
        rintro rfl
        exact hc hv
      · obtain ⟨v, hv, rfl⟩ := List.mem_map.mp hp
        rintro rfl
        exact hu ((Ordered.mem_distinct _).mp hv)

/-- All that a report is going to do if it can be applied. -/
theorem Ledger.reportPlan_ok {docs : Documents} {files : FileTree} {t : Ledger} {folder : Path}
    {report : Option Report} {c : Change (Ordered (List Record))}
    (h : t.reportPlan docs files folder report = .ok c) :
    ∃ records folderUri openUris,
      reportRecords docs files folder ((report.map (·.errors)).getD []) = .ok records ∧
      Uri.ofPath folder.toText = .ok folderUri ∧ docs.openUris = .ok openUris ∧
      c.stream = t.stream ∧ c.value = group records ∧
      publications c.effects = t.reportPublications openUris folderUri records := by
  unfold reportPlan at h
  obtain ⟨records, hrecords, h⟩ := bind_eq_ok_iff.mp h
  obtain ⟨folderUri, huri, h⟩ := bind_eq_ok_iff.mp h
  obtain ⟨openUris, hopen, h⟩ := bind_eq_ok_iff.mp h
  cases h
  refine ⟨records, folderUri, openUris, hrecords, huri, hopen, rfl, rfl, ?_⟩
  rw [publications_append, publications_map_publish, reportPublications]
  refine congrArg₂ (· ++ ·) rfl ?_
  rw [group_eq]
  induction Ordered.distinct (records.map (·.uri)) with
  | nil => rfl
  | cons u us ih => simpa [publications, Effect.debug] using ih

/-- All that a report does if it is applied and the client takes all of it. -/
theorem Ledger.run_enterReport_ok {docs : Documents} {files : FileTree} {publisher : Publisher}
    {t t' : Ledger} {folder : Path} {report : Option Report} {effects : List Effect}
    {grouped : Ordered (List Record)}
    (h : (enterReport docs files publisher folder report).run t = (t', effects, .ok grouped)) :
    ∃ records folderUri openUris,
      reportRecords docs files folder ((report.map (·.errors)).getD []) = .ok records ∧
      Uri.ofPath folder.toText = .ok folderUri ∧ docs.openUris = .ok openUris ∧
      t' = ⟨(t.reportPublications openUris folderUri records).foldl Store.note t.store, t.stream⟩ ∧
      grouped = group records ∧
      publications effects = t.reportPublications openUris folderUri records := by
  rw [run_enterReport] at h
  obtain ⟨c, hc, rfl, rfl, rfl⟩ := follow_ok h
  obtain ⟨records, folderUri, openUris, hrecords, huri, hopen, hstream, hvalue, hpublished⟩ :=
    reportPlan_ok hc
  exact ⟨records, folderUri, openUris, hrecords, huri, hopen, by rw [hpublished, hstream], hvalue,
    hpublished⟩

/-- A report is applied by publications and entries of the log. -/
theorem Ledger.reportPlan_effects {docs : Documents} {files : FileTree} {t : Ledger}
    {folder : Path} {report : Option Report} {c : Change (Ordered (List Record))}
    (h : t.reportPlan docs files folder report = .ok c) :
    ∀ e ∈ c.effects, (∃ entry, e = .log entry) ∨ ∃ p, e = .publish p := by
  unfold reportPlan at h
  obtain ⟨records, _, h⟩ := bind_eq_ok_iff.mp h
  obtain ⟨folderUri, _, h⟩ := bind_eq_ok_iff.mp h
  obtain ⟨openUris, _, h⟩ := bind_eq_ok_iff.mp h
  cases h
  intro e he
  rcases List.mem_append.mp he with he | he
  · obtain ⟨u, _, rfl⟩ := List.mem_map.mp he
    exact .inr ⟨_, rfl⟩
  · obtain ⟨⟨u, records⟩, _, he⟩ := List.mem_flatMap.mp he
    rcases List.mem_pair.mp he with rfl | rfl
    · exact .inl ⟨_, rfl⟩
    · exact .inr ⟨_, rfl⟩

/-! ### All operations -/

/-- What can be done to a ledger. An operation that looks at documents and files sees them as they
are when it is done. -/
inductive Operation where
  | openPass (extra : List String)
  | takeLine (docs : Documents) (files : FileTree) (raw : String)
  | clearStream
  | enterReport (docs : Documents) (files : FileTree) (folder : Path) (report : Option Report)
  | close (uri : String)

namespace Operation

/-- A line that comes while no document is open. -/
def line (raw : String) : Operation := takeLine (.given [] []) {} raw

def isLine : Operation → Bool
  | takeLine _ _ _ => true
  | _ => false

def isReport : Operation → Bool
  | enterReport _ _ _ _ => true
  | _ => false

/-- Whether the stream of a document starts again. -/
def restarts (u : String) : Operation → Bool
  | openPass _ => true
  | clearStream => true
  | close v => v = u
  | takeLine _ _ _ => false
  | enterReport _ _ _ _ => false

end Operation

/-- An operation that was done: the ledger before and after it, what was published, and the records
that it reported, unless it failed. -/
structure Ledger.Entry where
  before : Ledger
  operation : Operation
  after : Ledger
  published : List Publication
  result : Except Fault (List Record)

namespace Ledger.Entry

/-- The records that a line or a report brought. -/
def reported (e : Entry) : List Record :=
  match e.result with
  | .ok records => records
  | .error _ => []

/-- The records that a line brought for a document. -/
def streamed (u : String) (e : Entry) : List Record :=
  if e.operation.isLine then e.reported.filter (·.uri = u) else []

def restarts (u : String) (e : Entry) : Bool := e.operation.restarts u

/-- Whether something was published for a document. -/
def shows (u : String) (e : Entry) : Bool := e.published.any (·.uri = u)

/-- Whether an empty list was published for a document. -/
def empties (u : String) (e : Entry) : Bool := e.published.any fun p => p.uri = u ∧ p.records = []

end Ledger.Entry

/-- Does the operation; what it reports are records. -/
def Operation.work (publisher : Publisher) : Operation → Ledger.Edit (List Record)
  | openPass extra => (fun _ => []) <$> Ledger.openPass publisher extra
  | takeLine docs files raw => Option.toList <$> Ledger.takeLine docs files publisher raw
  | clearStream => ⟨fun t => (t.clearStream, [], .ok [])⟩
  | enterReport docs files folder report =>
    (·.flatMap (·.2)) <$> Ledger.enterReport docs files publisher folder report
  | close uri => (fun _ => []) <$> Ledger.close publisher uri

/-- What an operation is going to do. -/
def Operation.plan (t : Ledger) : Operation → Except Fault (Change (List Record))
  | openPass extra => .ok ((t.passPlan extra).map fun _ => [])
  | takeLine docs files raw => (t.linePlan docs files raw).map (Change.map Option.toList)
  | clearStream => .ok ⟨[], [], []⟩
  | enterReport docs files folder report =>
    (t.reportPlan docs files folder report).map (Change.map (·.flatMap (·.2)))
  | close uri => .ok ((t.closePlan uri).map fun _ => [])

/-- Every operation is planned before anything is done. -/
theorem Operation.run_work (publisher : Publisher) (op : Operation) (t : Ledger) :
    (op.work publisher).run t = t.follow publisher (op.plan t) := by
  cases op with
  | openPass extra =>
      have hplan : _ = t.follow publisher (.ok (t.passPlan extra)) := t.run_openPass publisher extra
      exact Ledger.Edit.run_map_of_follow hplan _
  | takeLine docs files raw => exact Ledger.Edit.run_map_of_follow (t.run_takeLine ..) _
  | clearStream => rfl
  | enterReport docs files folder report =>
      exact Ledger.Edit.run_map_of_follow (t.run_enterReport ..) _
  | close uri =>
      have hplan : _ = t.follow publisher (.ok (t.closePlan uri)) := t.run_close publisher uri
      exact Ledger.Edit.run_map_of_follow hplan _

/-- All that an operation does besides to the ledger is to publish and to log. -/
theorem Operation.plan_effects {op : Operation} {t : Ledger} {c : Change (List Record)}
    (h : op.plan t = .ok c) : ∀ e ∈ c.effects, (∃ entry, e = .log entry) ∨ ∃ p, e = .publish p := by
  cases op with
  | openPass extra =>
      cases h
      simp [Change.map, Ledger.passPlan]
  | takeLine docs files raw =>
      obtain ⟨line, hline, rfl⟩ := map_eq_ok_iff.mp h
      rcases t.linePlan_cases docs files raw with
        ⟨_, ⟨e, herror⟩ | ⟨c, hlogged, _, _, hlogs⟩⟩ | ⟨r, _, hbrings⟩
      · rw [hline] at herror
        cases herror
      · rw [hline, Except.ok.injEq] at hlogged
        exact fun e he => .inl (hlogs e (hlogged ▸ he))
      · rw [hline, Except.ok.injEq] at hbrings
        simp [Change.map, hbrings]
  | clearStream =>
      cases h
      simp
  | enterReport docs files folder report =>
      obtain ⟨grouped, hgrouped, rfl⟩ := map_eq_ok_iff.mp h
      exact Ledger.reportPlan_effects hgrouped
  | close uri =>
      cases h
      simp [Change.map, Ledger.closePlan]

theorem Operation.work_effects (op : Operation) (publisher : Publisher) (t : Ledger) :
    ∀ e ∈ ((op.work publisher).run t).2.1, (∃ entry, e = .log entry) ∨ ∃ p, e = .publish p := by
  rw [op.run_work]
  cases hplan : op.plan t with
  | error e => exact fun e he => absurd he List.not_mem_nil
  | ok c => exact fun e he => op.plan_effects hplan e (mem_of_mem_publishAll he)

theorem Ledger.enterReport_effects (docs : Documents) (files : FileTree) (publisher : Publisher)
    (t : Ledger) (folder : Path) (report : Option Report) :
    ∀ e ∈ ((enterReport docs files publisher folder report).run t).2.1,
      (∃ entry, e = .log entry) ∨ ∃ p, e = .publish p := by
  have h := (Operation.enterReport docs files folder report).work_effects publisher t
  rwa [Operation.work, Edit.run_map] at h

/-- Only lines put something into an empty stream. -/
theorem Operation.stream_work_eq_nil {op : Operation} (hline : op.isLine = false)
    (publisher : Publisher) {t : Ledger} (h : t.stream = []) :
    ((op.work publisher).run t).1.stream = [] := by
  rw [op.run_work]
  cases hplan : op.plan t with
  | error e => exact h
  | ok c =>
      change c.stream = []
      cases op with
      | openPass extra =>
          cases hplan
          rfl
      | takeLine docs files raw => cases hline
      | clearStream =>
          cases hplan
          rfl
      | enterReport docs files folder report =>
          obtain ⟨grouped, hgrouped, rfl⟩ := map_eq_ok_iff.mp hplan
          obtain ⟨_, _, _, _, _, _, hstream, _⟩ := Ledger.reportPlan_ok hgrouped
          exact hstream.trans h
      | close uri =>
          cases hplan
          simp [Change.map, Ledger.closePlan, h, Ordered.remove]

/-- Does an operation, with a publisher that takes everything. -/
def Ledger.perform (t : Ledger) (op : Operation) : Entry :=
  let (after, effects, result) := (op.work .accepting).run t
  ⟨t, op, after, publications effects, result⟩

namespace Ledger

@[simp] theorem perform_operation (t : Ledger) (op : Operation) :
    (t.perform op).operation = op := by
  cases op <;> rfl

/-- Whatever a publisher takes, an operation that cannot be planned does nothing. -/
theorem run_work_of_error {t : Ledger} {op : Operation} {e : Fault} (h : op.plan t = .error e)
    (publisher : Publisher) : (op.work publisher).run t = (t, [], .error e) := by
  rw [op.run_work, h]
  rfl

/-- An operation that fails does nothing. -/
theorem perform_of_error {t : Ledger} {op : Operation} {e : Fault} (h : op.plan t = .error e) :
    t.perform op = ⟨t, op, t, [], .error e⟩ := by
  rw [perform, run_work_of_error h]
  rfl

/-- An operation that does not fail carries out its plan. -/
theorem perform_of_ok {t : Ledger} {op : Operation} {c : Change (List Record)}
    (h : op.plan t = .ok c) :
    t.perform op =
      ⟨t, op, ⟨(publications c.effects).foldl Store.note t.store, c.stream⟩,
        publications c.effects, .ok c.value⟩ := by
  rw [perform, op.run_work, h, follow, commit_accepting]

/-- What a publisher leaves that takes all that an operation publishes. -/
theorem run_work_of_taken {publisher : Publisher} {t : Ledger} {op : Operation}
    {c : Change (List Record)} (h : op.plan t = .ok c)
    (htaken : ∀ p ∈ publications c.effects, publisher p = .ok ()) :
    (op.work publisher).run t = ((t.perform op).after, c.effects, .ok c.value) := by
  rw [op.run_work, h, follow, commit_of_taken publisher t c htaken, perform_of_ok h]

theorem plan_openPass (t : Ledger) (extra : List String) :
    Operation.plan t (.openPass extra) = .ok ⟨[], (t.passPlan extra).effects, []⟩ := rfl

theorem plan_close (t : Ledger) (uri : String) :
    Operation.plan t (.close uri) = .ok ⟨Ordered.remove uri t.stream, [.publish ⟨uri, []⟩], []⟩ :=
  rfl

theorem perform_openPass (t : Ledger) (extra : List String) :
    t.perform (.openPass extra) =
      ⟨t, .openPass extra, ⟨(publications (t.passPlan extra).effects).foldl Store.note t.store, []⟩,
        publications (t.passPlan extra).effects, .ok []⟩ :=
  perform_of_ok (plan_openPass t extra)

theorem perform_clearStream (t : Ledger) :
    t.perform .clearStream = ⟨t, .clearStream, t.clearStream, [], .ok []⟩ := rfl

theorem perform_close (t : Ledger) (uri : String) :
    t.perform (.close uri) =
      ⟨t, .close uri, ⟨t.store.note ⟨uri, []⟩, Ordered.remove uri t.stream⟩, [⟨uri, []⟩], .ok []⟩ :=
  perform_of_ok (plan_close t uri)

/-- What an operation publishes for a document is what stands for it afterwards. -/
theorem store_perform (t : Ledger) (op : Operation) (u : String) :
    (t.perform op).after.store.get u =
      (latest? u (t.perform op).published).getD (t.store.get u) := by
  cases hplan : op.plan t with
  | error e => rw [perform_of_error hplan]; rfl
  | ok c => rw [perform_of_ok hplan, Store.get_foldl_note]

theorem store_of_not_shows {t : Ledger} {op : Operation} {u : String}
    (h : (t.perform op).shows u = false) : (t.perform op).after.store.get u = t.store.get u := by
  have hnone : latest? u (t.perform op).published = none := by
    rw [latest?_eq_none_iff]
    simpa [Entry.shows] using h
  rw [store_perform, hnone, Option.getD_none]

theorem perform_line_of_none {docs : Documents} {files : FileTree} {raw : String}
    (h : lineRecord? docs files raw = none) (t : Ledger) :
    (t.perform (.takeLine docs files raw)).after = t ∧
      (t.perform (.takeLine docs files raw)).published = [] ∧
      (t.perform (.takeLine docs files raw)).reported = [] := by
  rcases t.linePlan_cases docs files raw with
    ⟨_, ⟨e, hline⟩ | ⟨c, hline, hvalue, hstream, hlogs⟩⟩ | ⟨r, hr, _⟩
  · have hplan : Operation.plan t (.takeLine docs files raw) = .error e := by
      rw [Operation.plan, hline]
      rfl
    simp [perform_of_error hplan, Entry.reported]
  · have hplan : Operation.plan t (.takeLine docs files raw) = .ok (c.map Option.toList) := by
      rw [Operation.plan, hline]
      rfl
    simp [perform_of_ok hplan, Entry.reported, Change.map, hvalue, hstream,
      publications_of_logs hlogs]
  · simp [h] at hr

theorem plan_line_of_some {docs : Documents} {files : FileTree} {raw : String} {r : Record}
    (h : lineRecord? docs files raw = some r) (t : Ledger) :
    Operation.plan t (.takeLine docs files raw) = .ok ⟨t.stream.append r,
      [.publish ⟨r.uri, (t.stream.append r).get r.uri⟩], [r]⟩ := by
  rcases t.linePlan_cases docs files raw with ⟨hnone, _⟩ | ⟨r', hr, hline⟩
  · simp [h] at hnone
  · rw [h, Option.some.injEq] at hr
    subst r'
    rw [Operation.plan, hline]
    rfl

theorem perform_line_of_some {docs : Documents} {files : FileTree} {raw : String} {r : Record}
    (h : lineRecord? docs files raw = some r) (t : Ledger) :
    t.perform (.takeLine docs files raw) =
      ⟨t, .takeLine docs files raw,
        ⟨t.store.note ⟨r.uri, (t.stream.append r).get r.uri⟩, t.stream.append r⟩,
        [⟨r.uri, (t.stream.append r).get r.uri⟩], .ok [r]⟩ :=
  perform_of_ok (plan_line_of_some h t)

/-- A line is entered whether or not the client takes what it publishes. -/
theorem after_work_line (publisher : Publisher) (t : Ledger) (docs : Documents) (files : FileTree)
    (raw : String) :
    ((Operation.work publisher (.takeLine docs files raw)).run t).1 =
      (t.perform (.takeLine docs files raw)).after := by
  rw [Operation.run_work]
  cases hr : lineRecord? docs files raw with
  | some r =>
      rw [perform_line_of_some hr, plan_line_of_some hr, follow]
      cases hp : publisher ⟨r.uri, (t.stream.append r).get r.uri⟩ <;> simp [commit, publishAll, hp]
  | none =>
      rw [(perform_line_of_none hr t).1]
      cases hplan : Operation.plan t (.takeLine docs files raw) with
      | error e => rfl
      | ok c =>
          have hafter := (perform_line_of_none hr t).1
          have hnone := (perform_line_of_none hr t).2.1
          rw [perform_of_ok hplan] at hafter hnone
          rw [follow, commit_of_taken publisher t c (by simp [show publications c.effects = [] from hnone])]
          exact hafter

theorem plan_report_of_error {docs : Documents} {files : FileTree} {t : Ledger} {folder : Path}
    {report : Option Report} {e : Fault} (h : t.reportPlan docs files folder report = .error e) :
    Operation.plan t (.enterReport docs files folder report) = .error e := by
  rw [Operation.plan, h]
  rfl

theorem plan_report_of_ok {docs : Documents} {files : FileTree} {t : Ledger} {folder : Path}
    {report : Option Report} {c : Change (Ordered (List Record))}
    (h : t.reportPlan docs files folder report = .ok c) :
    Operation.plan t (.enterReport docs files folder report) =
      .ok (c.map (·.flatMap (·.2))) := by
  rw [Operation.plan, h]
  rfl

/-- The stream of a document grows by the record of a line, starts again, or stays as it is. -/
theorem lookup_stream_perform (t : Ledger) (op : Operation) (u : String) :
    (t.perform op).after.stream.lookup u =
      if op.restarts u then none
      else if (t.perform op).streamed u = [] then t.stream.lookup u
      else some (t.stream.get u ++ (t.perform op).streamed u) := by
  cases op with
  | openPass extra => simp [perform_openPass, Operation.restarts]
  | clearStream => simp [perform_clearStream, clearStream, Operation.restarts]
  | close v =>
      by_cases h : v = u
      · simp [perform_close, Operation.restarts, h]
      · have h' : ¬u = v := fun e => h e.symm
        simp [perform_close, Operation.restarts, Entry.streamed, Operation.isLine, h, h']
  | enterReport docs files folder report =>
      have hstream :
          (t.perform (.enterReport docs files folder report)).after.stream = t.stream := by
        cases h : t.reportPlan docs files folder report with
        | error e => rw [perform_of_error (plan_report_of_error h)]
        | ok c =>
            obtain ⟨_, _, _, _, _, _, hc, _⟩ := reportPlan_ok h
            rw [perform_of_ok (plan_report_of_ok h)]
            exact hc
      simp [hstream, Operation.restarts, Entry.streamed, Operation.isLine]
  | takeLine docs files raw =>
      cases hr : lineRecord? docs files raw with
      | none =>
          obtain ⟨hafter, _, hreported⟩ := perform_line_of_none hr t
          simp [hafter, hreported, Operation.restarts, Entry.streamed]
      | some r =>
          rw [perform_line_of_some hr, Stream.lookup_append]
          by_cases h : u = r.uri
          · simp [Operation.restarts, Entry.streamed, Entry.reported, Operation.isLine, h]
          · have h' : ¬r.uri = u := fun e => h e.symm
            simp [Operation.restarts, Entry.streamed, Entry.reported, Operation.isLine, h, h']

theorem get_stream_perform (t : Ledger) (op : Operation) (u : String) :
    (t.perform op).after.stream.get u =
      if op.restarts u then [] else t.stream.get u ++ (t.perform op).streamed u := by
  rw [Stream.get, lookup_stream_perform]
  by_cases hr : op.restarts u
  · simp [hr]
  · by_cases hs : (t.perform op).streamed u = []
    · simp [hr, hs, Stream.get]
    · simp [hr, hs]

/-- A line that brings a record for a document makes the stream of that document stand; any other
line shows nothing of it. -/
theorem store_line (t : Ledger) (docs : Documents) (files : FileTree) (raw u : String) :
    ((t.perform (.takeLine docs files raw)).shows u = false ∧
      (t.perform (.takeLine docs files raw)).streamed u = []) ∨
    ((t.perform (.takeLine docs files raw)).shows u = true ∧
      (t.perform (.takeLine docs files raw)).empties u = false ∧
      (t.perform (.takeLine docs files raw)).streamed u ≠ [] ∧
      (t.perform (.takeLine docs files raw)).after.store.get u =
        (t.perform (.takeLine docs files raw)).after.stream.get u) := by
  cases hr : lineRecord? docs files raw with
  | none =>
      obtain ⟨_, hpublished, hreported⟩ := perform_line_of_none hr t
      simp [Entry.shows, Entry.streamed, hpublished, hreported]
  | some r =>
      rw [perform_line_of_some hr]
      by_cases h : u = r.uri
      · right
        simp [Entry.shows, Entry.empties, Entry.streamed, Entry.reported, Operation.isLine, h,
          Stream.get_append]
      · have h' : ¬r.uri = u := fun e => h e.symm
        simp [Entry.shows, Entry.streamed, Entry.reported, h']

/-- What stands for a document that a report shows is empty or comes from the report. -/
theorem store_report (t : Ledger) (docs : Documents) (files : FileTree) (folder : Path)
    (report : Option Report) {u : String}
    (h : (t.perform (.enterReport docs files folder report)).shows u) :
    (t.perform (.enterReport docs files folder report)).after.store.get u = [] ∨
    ((t.perform (.enterReport docs files folder report)).empties u = false ∧
      ∀ r ∈ (t.perform (.enterReport docs files folder report)).after.store.get u,
        r ∈ (t.perform (.enterReport docs files folder report)).reported ∧ r.uri = u) := by
  rw [store_perform]
  cases hc : t.reportPlan docs files folder report with
  | error e => simp [perform_of_error (plan_report_of_error hc), Entry.shows] at h
  | ok c =>
      obtain ⟨records, folderUri, openUris, _, _, _, _, hvalue, hpublished⟩ := reportPlan_ok hc
      have hlatest := t.latest?_reportPublications openUris folderUri records u
      simp only [perform_of_ok (plan_report_of_ok hc), Change.map, Entry.shows, Entry.empties,
        Entry.reported, hpublished, hvalue, hlatest] at h ⊢
      by_cases hu : u ∈ records.map (·.uri)
      · right
        rw [if_pos hu] at hlatest ⊢
        obtain ⟨r, hr, hru⟩ := List.mem_map.mp hu
        have hr : r ∈ records.filter (·.uri = u) := by simp [hr, hru]
        refine ⟨?_, ?_⟩
        · rw [List.any_eq_false]
          rintro p hp hempty
          obtain ⟨rfl, hnil⟩ := of_decide_eq_true hempty
          rw [latest?_eq_some_of_mem (t.nodup_reportPublications openUris folderUri records) hp,
            hnil, Option.some.injEq] at hlatest
          rw [← hlatest] at hr
          exact List.not_mem_nil hr
        · intro q hq
          obtain ⟨_, hqu⟩ := List.mem_filter.mp hq
          refine ⟨?_, of_decide_eq_true hqu⟩
          rw [group_eq, List.mem_flatMap]
          exact ⟨_, List.mem_map_of_mem ((Ordered.mem_distinct _).mpr hu), hq⟩
      · left
        by_cases hclear : u ∈ t.cleared openUris folderUri records
        · rw [if_neg hu, if_pos hclear, Option.getD_some]
        · rw [if_neg hu, if_neg hclear, latest?_eq_none_iff] at hlatest
          obtain ⟨p, hp, hpu⟩ := List.any_eq_true.mp h
          exact absurd (of_decide_eq_true hpu) (hlatest p hp)

/-- Nothing stands when a pass has been opened. -/
theorem store_openPass (t : Ledger) (extra : List String) (u : String) :
    (t.perform (.openPass extra)).after.store.get u = [] := by
  rw [store_perform]
  simp only [perform_openPass, passPlan, publications_map_publish]
  generalize hus : Ordered.distinct (Ordered.keys t.store ++ extra) = us
  by_cases hu : u ∈ us
  · have hn : ((us.map fun v => (⟨v, []⟩ : Publication)).map (·.uri)).Nodup := by
      simpa [Function.comp_def, ← hus] using Ordered.nodup_distinct _
    rw [latest?_eq_some_of_mem hn (p := ⟨u, []⟩) (List.mem_map_of_mem hu), Option.getD_some]
  · have hstored : u ∉ Ordered.keys t.store := by
      intro h
      exact hu (hus ▸ (Ordered.mem_distinct _).mpr (List.mem_append_left _ h))
    have hnone : latest? u (us.map fun v => ⟨v, []⟩) = none := by
      rw [latest?_eq_none_iff]
      rintro p hp rfl
      obtain ⟨v, hv, rfl⟩ := List.mem_map.mp hp
      exact hu hv
    rw [hnone, Option.getD_none, Store.get_eq_nil_of_not_mem hstored]

theorem store_close (t : Ledger) (v u : String) :
    (t.perform (.close v)).after.store.get u = if v = u then [] else t.store.get u := by
  rw [store_perform]
  by_cases h : v = u <;> simp [perform_close, latest?, h]

end Ledger

end Datapack.Diagnostic
