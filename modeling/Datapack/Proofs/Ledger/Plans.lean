import Datapack.Proofs.Ledger.Publications
import Datapack.Proofs.Outcomes

/-! Plans. What an operation is going to do can be told in advance, and it does nothing before the
last point at which telling it can fail: what remains then is to publish one list after the other. -/

namespace Datapack.Diagnostic

/-- What is going to be done: the stream that is left, publications and log entries in order, and a
result. -/
structure Change (α : Type) where
  stream : Stream
  effects : List Effect
  value : α

/-- The same change with another result. -/
def Change.map {α β : Type} (f : α → β) (c : Change α) : Change β :=
  ⟨c.stream, c.effects, f c.value⟩

/-- Makes publications one by one, keeping each in the store. The first one that is not taken is
kept too, but ends the work. -/
def publishAll (publisher : Publisher) (store : Store) :
    List Effect → Store × List Effect × Except Fault Unit
  | [] => (store, [], .ok ())
  | .publish p :: rest =>
    match publisher p with
    | .error e => (store.note p, [], .error e)
    | .ok () =>
      let (store, done, result) := publishAll publisher (store.note p) rest
      (store, .publish p :: done, result)
  | e :: rest =>
    let (store, done, result) := publishAll publisher store rest
    (store, e :: done, result)

/-- Carries a change out. -/
def Ledger.commit {α : Type} (publisher : Publisher) (t : Ledger) (c : Change α) :
    Ledger × List Effect × Except Fault α :=
  let (store, done, result) := publishAll publisher t.store c.effects
  (⟨store, c.stream⟩, done, result.map fun () => c.value)

/-- Carries a plan out. If there is none, nothing is done. -/
def Ledger.follow {α : Type} (publisher : Publisher) (t : Ledger) :
    Except Fault (Change α) → Ledger × List Effect × Except Fault α
  | .error e => (t, [], .error e)
  | .ok c => t.commit publisher c

/-- A publisher that takes all publications leaves a store that has noted them, in order. -/
theorem publishAll_of_taken (publisher : Publisher) (store : Store) (es : List Effect)
    (h : ∀ p ∈ publications es, publisher p = .ok ()) :
    publishAll publisher store es = ((publications es).foldl Store.note store, es, .ok ()) := by
  induction es generalizing store with
  | nil => rfl
  | cons e es ih =>
      cases e with
      | publish p =>
          have hp : publisher p = .ok () := h p (by simp)
          simp only [publishAll, hp, ih _ fun q hq => h q (by simp [hq]), publications_publish,
            List.foldl_cons]
      | _ => simp only [publishAll, ih store h]; rfl

/-- If the work comes to its end, every publication was taken. -/
theorem taken_of_publishAll_ok (publisher : Publisher) (store : Store) (es : List Effect)
    (h : (publishAll publisher store es).2.2 = .ok ()) :
    ∀ p ∈ publications es, publisher p = .ok () := by
  induction es generalizing store with
  | nil => simp
  | cons e es ih =>
      cases e with
      | publish p =>
          cases hp : publisher p with
          | error fault => simp [publishAll, hp] at h
          | ok _ =>
              simp only [publishAll, hp] at h
              simp only [publications_publish, List.mem_cons, forall_eq_or_imp]
              exact ⟨hp, ih _ h⟩
      | _ => exact ih store h

/-- Of what is planned, that is done which the client takes. -/
theorem mem_of_mem_publishAll {publisher : Publisher} {store : Store} {es : List Effect}
    {e : Effect} (h : e ∈ (publishAll publisher store es).2.1) : e ∈ es := by
  induction es generalizing store with
  | nil => exact h
  | cons first es ih =>
      unfold publishAll at h
      split at h
      · simp at *
      · next p rest heq =>
          cases heq
          split at h
          · cases h
          · rcases List.mem_cons.mp h with rfl | h
            · exact List.mem_cons_self
            · exact List.mem_cons_of_mem _ (ih h)
      · next e' rest _ heq =>
          cases heq
          rcases List.mem_cons.mp h with rfl | h
          · exact List.mem_cons_self
          · exact List.mem_cons_of_mem _ (ih h)

theorem Ledger.commit_of_taken {α : Type} (publisher : Publisher) (t : Ledger) (c : Change α)
    (h : ∀ p ∈ publications c.effects, publisher p = .ok ()) :
    t.commit publisher c =
      (⟨(publications c.effects).foldl Store.note t.store, c.stream⟩, c.effects, .ok c.value) := by
  simp [commit, publishAll_of_taken publisher t.store c.effects h, Except.map]

theorem Ledger.commit_accepting {α : Type} (t : Ledger) (c : Change α) :
    t.commit .accepting c =
      (⟨(publications c.effects).foldl Store.note t.store, c.stream⟩, c.effects, .ok c.value) :=
  commit_of_taken _ t c fun _ _ => rfl

/-- What a publisher that took everything leaves, and what was done. -/
theorem Ledger.commit_ok {α : Type} {publisher : Publisher} {t t' : Ledger} {c : Change α}
    {effects : List Effect} {value : α} (h : t.commit publisher c = (t', effects, .ok value)) :
    t' = ⟨(publications c.effects).foldl Store.note t.store, c.stream⟩ ∧ effects = c.effects ∧
      value = c.value := by
  have hok : (publishAll publisher t.store c.effects).2.2 = .ok () := by
    cases hresult : (publishAll publisher t.store c.effects).2.2 with
    | error e => simp [commit, hresult, Except.map] at h
    | ok _ => rfl
  rw [commit_of_taken publisher t c (taken_of_publishAll_ok publisher t.store c.effects hok)] at h
  simp only [Prod.mk.injEq, Except.ok.injEq] at h
  exact ⟨h.1.symm, h.2.1.symm, h.2.2.symm⟩

/-- What was done, if a plan was carried out to its end. -/
theorem Ledger.follow_ok {α : Type} {publisher : Publisher} {t t' : Ledger}
    {plan : Except Fault (Change α)} {effects : List Effect} {value : α}
    (h : t.follow publisher plan = (t', effects, .ok value)) :
    ∃ c, plan = .ok c ∧ t' = ⟨(publications c.effects).foldl Store.note t.store, c.stream⟩ ∧
      effects = c.effects ∧ value = c.value := by
  cases plan with
  | error e => cases h
  | ok c => exact ⟨c, rfl, commit_ok h⟩

/-! ### Work that publishes -/

theorem publishAll_append (publisher : Publisher) (store : Store) (es fs : List Effect) :
    publishAll publisher store (es ++ fs) =
      match publishAll publisher store es with
      | (store', done, .ok ()) =>
        let (store'', more, result) := publishAll publisher store' fs
        (store'', done ++ more, result)
      | (store', done, .error e) => (store', done, .error e) := by
  induction es generalizing store with
  | nil => rfl
  | cons e es ih =>
      cases e with
      | publish p =>
          cases hp : publisher p with
          | error fault => simp [publishAll, hp]
          | ok _ =>
              simp only [List.cons_append, publishAll, hp, ih]
              rcases publishAll publisher (store.note p) es with ⟨store', done, _ | _⟩ <;> rfl
      | _ =>
          simp only [List.cons_append, publishAll, ih]
          rcases publishAll publisher store es with ⟨store', done, _ | _⟩ <;> rfl

namespace Ledger

namespace Edit

@[simp] theorem run_pure {α : Type} (a : α) (t : Ledger) :
    (pure a : Edit α).run t = (t, [], .ok a) := rfl

@[simp] theorem run_lift {α : Type} (result : Except Fault α) (t : Ledger) :
    (liftM result : Edit α).run t = (t, [], result) := rfl

theorem run_bind {α β : Type} (work : Edit α) (next : α → Edit β) (t : Ledger) :
    (work >>= next).run t =
      match work.run t with
      | (t', done, .ok a) =>
        let (t'', more, result) := (next a).run t'
        (t'', done ++ more, result)
      | (t', done, .error e) => (t', done, .error e) := rfl

theorem run_bind_of_ok {α β : Type} {work : Edit α} {t t' : Ledger} {a : α}
    (h : work.run t = (t', [], .ok a)) (next : α → Edit β) :
    (work >>= next).run t = (next a).run t' := by
  rw [run_bind, h]
  rfl

theorem run_bind_of_error {α β : Type} {work : Edit α} {t t' : Ledger} {done : List Effect}
    {e : Fault} (h : work.run t = (t', done, .error e)) (next : α → Edit β) :
    (work >>= next).run t = (t', done, .error e) := by
  rw [run_bind, h]

theorem run_map {α β : Type} (f : α → β) (work : Edit α) (t : Ledger) :
    (f <$> work).run t = ((work.run t).1, (work.run t).2.1, (work.run t).2.2.map f) := by
  change (work >>= fun a => pure (f a)).run t = _
  rw [run_bind]
  rcases work.run t with ⟨t', done, _ | _⟩ <;> simp [Except.map]

/-- What follows a plan and then makes something of its result follows the plan with that result. -/
theorem run_map_of_follow {α β : Type} {publisher : Publisher} {work : Edit α} {t : Ledger}
    {plan : Except Fault (Change α)} (h : work.run t = t.follow publisher plan) (f : α → β) :
    (f <$> work).run t = t.follow publisher (plan.map (Change.map f)) := by
  rw [run_map, h]
  cases plan with
  | error e => rfl
  | ok c =>
      simp only [Ledger.follow, Ledger.commit, Except.map, Change.map]
      rcases publishAll publisher t.store c.effects with ⟨store, done, _ | _⟩ <;> rfl

/-- All that the work does before it has its result is to make publications and log entries. -/
def Carries {α : Type} (publisher : Publisher) (work : Edit α) (es : List Effect) (value : α) :
    Prop :=
  ∀ t : Ledger, work.run t = t.commit publisher ⟨t.stream, es, value⟩

variable (publisher : Publisher)

theorem carries_return {α : Type} (value : α) : Carries publisher (pure value) [] value :=
  fun _ => rfl

theorem carries_log (entry : LogEntry) : Carries publisher (emit (.log entry)) [.log entry] () :=
  fun _ => rfl

theorem carries_publish (p : Publication) :
    Carries publisher (publish publisher p) [.publish p] () := by
  intro t
  rw [publish, run_bind_of_ok rfl]
  cases hp : publisher p with
  | error e => simp [run_bind, Ledger.commit, publishAll, hp, Except.map]
  | ok _ => simp [run_bind, Ledger.commit, publishAll, hp, emit, Except.map]

variable {publisher}

theorem Carries.seq {α : Type} {work : Edit Unit} {more : Edit α} {es fs : List Effect} {value : α}
    (h : Carries publisher work es ()) (hmore : Carries publisher more fs value) :
    Carries publisher (work >>= fun _ => more) (es ++ fs) value := by
  intro t
  rw [run_bind, h t, Ledger.commit, Ledger.commit, publishAll_append]
  rcases publishAll publisher t.store es with ⟨store, done, _ | _⟩
  · rfl
  · simp only [Except.map, hmore _]
    rfl

theorem Carries.returning {work : Edit Unit} {es : List Effect} (h : Carries publisher work es ())
    {α : Type} (value : α) : Carries publisher (work >>= fun _ => pure value) es value := by
  simpa using h.seq (carries_return publisher value)

theorem Carries.forM {α : Type} {work : α → Edit Unit} {es : α → List Effect}
    (h : ∀ x, Carries publisher (work x) (es x) ()) (xs : List α) :
    Carries publisher (xs.forM work) (xs.flatMap es) () := by
  induction xs with
  | nil => exact carries_return publisher ()
  | cons x xs ih =>
      rw [List.flatMap_cons]
      exact (h x).seq ih

/-- Only what is chosen is published. -/
theorem Carries.forM_filter {α : Type} (chosen : α → Bool) (p : α → Publication) (xs : List α) :
    Carries publisher (xs.forM fun x => if chosen x then publish publisher (p x) else pure ())
      ((xs.filter chosen).map fun x => .publish (p x)) () := by
  have hone (x : α) : Carries publisher (if chosen x then publish publisher (p x) else pure ())
      (([x].filter chosen).map fun x => .publish (p x)) () := by
    cases hx : chosen x with
    | true => simpa [hx] using carries_publish publisher (p x)
    | false => simpa [hx] using carries_return publisher ()
  induction xs with
  | nil => exact carries_return publisher ()
  | cons x xs ih =>
      rw [← List.singleton_append, List.filter_append, List.map_append]
      exact (hone x).seq ih

end Edit

/-! ### Plans of operations -/

/-- What opening a pass is going to do. -/
def passPlan (t : Ledger) (extra : List String) : Change Unit :=
  { stream := []
    effects := (Ordered.distinct (Ordered.keys t.store ++ extra)).map fun u => .publish ⟨u, []⟩
    value := () }

/-- What is going to be done with a line. -/
def linePlan (docs : Documents) (files : FileTree) (t : Ledger) (raw : String) :
    Except Fault (Change (Option Record)) :=
  match readErrorLine raw with
  | .error _ =>
    .ok ⟨t.stream, [.warning ("Discarding malformed compiler error line: " ++
      Text.quoted (Text.trimEndText raw))], none⟩
  | .ok none =>
    let shown := Text.trimText raw
    .ok ⟨t.stream, if shown.isEmpty then [] else [.info ("compiler: " ++ shown)], none⟩
  | .ok (some finding) => do
    let record ← recordOf docs files finding
    let stream := t.stream.append record
    return ⟨stream, [.publish ⟨record.uri, stream.get record.uri⟩], some record⟩

/-- The records of a report, whose file names are seen from the folder. -/
def reportRecords (docs : Documents) (files : FileTree) (folder : Path) (errors : List Finding) :
    Except Fault (List Record) :=
  errors.mapM fun f => recordOf docs files { f with file := (folder.child f.file).toText }

/-- The documents that a report of a folder clears: those in the folder that are open or carry
diagnostics and have no record in it. -/
def cleared (t : Ledger) (openUris : List String) (folderUri : String) (records : List Record) :
    List String :=
  (Ordered.distinct (openUris ++ Ordered.keys t.store)).filter fun u =>
    !(Ordered.keys (group records)).contains u && Uri.isInside u folderUri

/-- What is going to be done with the report of a folder. -/
def reportPlan (docs : Documents) (files : FileTree) (t : Ledger) (folder : Path)
    (report : Option Report) : Except Fault (Change (Ordered (List Record))) := do
  let records ← reportRecords docs files folder ((report.map (·.errors)).getD [])
  let folderUri ← Uri.ofPath folder.toText
  let openUris ← docs.openUris
  let clears : List Effect :=
    (t.cleared openUris folderUri records).map fun u => .publish ⟨u, []⟩
  let news : List Effect := (group records).flatMap fun (u, records) =>
    [.debug ("Publishing " ++ toString records.length ++ " diagnostic(s) to " ++ u),
     .publish ⟨u, records⟩]
  return ⟨t.stream, clears ++ news, group records⟩

/-- What closing a document is going to do. -/
def closePlan (t : Ledger) (uri : String) : Change Unit :=
  { stream := Ordered.remove uri t.stream
    effects := [.publish ⟨uri, []⟩]
    value := () }

open Edit

variable (docs : Documents) (files : FileTree) (publisher : Publisher) (t : Ledger)

theorem run_openPass (extra : List String) :
    (openPass publisher extra).run t = t.commit publisher (t.passPlan extra) := by
  rw [openPass, run_bind_of_ok rfl, run_bind_of_ok rfl,
    Carries.forM (fun u => carries_publish publisher ⟨u, []⟩), ← List.map_eq_flatMap]
  rfl

theorem run_close (uri : String) :
    (close publisher uri).run t = t.commit publisher (t.closePlan uri) := by
  rw [close, run_bind_of_ok rfl, carries_publish]
  rfl

/-- A line is placed before anything is done with it. -/
theorem run_takeLine (raw : String) :
    (takeLine docs files publisher raw).run t = t.follow publisher (t.linePlan docs files raw) := by
  unfold takeLine linePlan
  cases readErrorLine raw with
  | error _ => exact (carries_log publisher _).returning none t
  | ok finding =>
      cases finding with
      | none =>
          simp only
          cases (Text.trimText raw).isEmpty
          · exact (carries_log publisher _).returning none t
          · exact (carries_return publisher ()).returning none t
      | some finding =>
          simp only
          cases hrecord : recordOf docs files finding with
          | error e => rw [run_bind_of_error (run_lift _ t)]; rfl
          | ok record =>
              rw [run_bind_of_ok (run_lift _ t), Edit.append, run_bind_of_ok rfl]
              exact (carries_publish publisher _).returning (some record) _

/-- The records of a report are grouped while they are made, and nothing else is done. -/
theorem run_groupReport (folder : Path) (errors : List Finding) :
    (groupReport docs files folder errors).run t =
      (t, [], (reportRecords docs files folder errors).map group) := by
  unfold groupReport reportRecords group
  generalize ([] : Ordered (List Record)) = grouped
  induction errors generalizing grouped with
  | nil => rfl
  | cons f errors ih =>
      rw [List.foldlM_cons, List.mapM_cons]
      cases hrecord : recordOf docs files { f with file := (folder.child f.file).toText } with
      | error e =>
          have hstep := run_bind_of_error (run_lift (.error e) t) fun r =>
            (pure (Stream.append grouped r) : Edit (Ordered (List Record)))
          rw [run_bind_of_error hstep]
          rfl
      | ok record =>
          have hstep := run_bind_of_ok (run_lift (.ok record) t) fun r =>
            (pure (Stream.append grouped r) : Edit (Ordered (List Record)))
          rw [run_bind_of_ok hstep, ih]
          cases errors.mapM fun f =>
            recordOf docs files { f with file := (folder.child f.file).toText } <;> rfl

/-- All records of a report are made before anything is done with it. -/
theorem run_enterReport (folder : Path) (report : Option Report) :
    (enterReport docs files publisher folder report).run t =
      t.follow publisher (t.reportPlan docs files folder report) := by
  unfold enterReport reportPlan
  have hgroup := run_groupReport docs files t folder ((report.map (·.errors)).getD [])
  cases hrecords : reportRecords docs files folder ((report.map (·.errors)).getD []) with
  | error e =>
      rw [hrecords] at hgroup
      rw [run_bind_of_error hgroup]
      rfl
  | ok records =>
      rw [hrecords] at hgroup
      rw [run_bind_of_ok hgroup]
      cases huri : Uri.ofPath folder.toText with
      | error e => rw [run_bind_of_error (run_lift _ t)]; rfl
      | ok folderUri =>
          rw [run_bind_of_ok (run_lift _ t)]
          cases hopen : docs.openUris with
          | error e => rw [run_bind_of_error (run_lift _ t)]; rfl
          | ok openUris =>
              rw [run_bind_of_ok (run_lift _ t), run_bind_of_ok rfl]
              have hclears : Carries publisher _ _ () := Carries.forM_filter
                (fun u => !(Ordered.keys (group records)).contains u && Uri.isInside u folderUri)
                (fun u => ⟨u, []⟩) (Ordered.distinct (openUris ++ Ordered.keys t.store))
              have hnews := Carries.forM (fun g : String × List Record =>
                (carries_log publisher ⟨.debug, "Publishing " ++ toString g.2.length ++
                  " diagnostic(s) to " ++ g.1, none⟩).seq (carries_publish publisher ⟨g.1, g.2⟩))
                (group records)
              exact hclears.seq (hnews.returning (group records)) t

variable {docs files t}

theorem run_enterReport_of_error (publisher : Publisher) {folder : Path}
    {report : Option Report} {e : Fault}
    (h : t.reportPlan docs files folder report = .error e) :
    (enterReport docs files publisher folder report).run t = (t, [], .error e) := by
  rw [run_enterReport, h]
  rfl

theorem run_enterReport_of_ok (publisher : Publisher) {folder : Path} {report : Option Report}
    {c : Change (Ordered (List Record))} (h : t.reportPlan docs files folder report = .ok c)
    (htaken : ∀ p ∈ publications c.effects, publisher p = .ok ()) :
    (enterReport docs files publisher folder report).run t =
      (⟨(publications c.effects).foldl Store.note t.store, c.stream⟩, c.effects, .ok c.value) := by
  rw [run_enterReport, h, follow, commit_of_taken publisher t c htaken]

end Ledger

end Datapack.Diagnostic
