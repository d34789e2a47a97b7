import Datapack.Proofs.Machine.Invocations

/-! One-shot compiles never overlap. Whatever is asked of a runner and of the session it belongs to,
a folder is compiled under the lock of the runner, and its report is read, handed over and applied
before the next process is asked for. -/

namespace Datapack

namespace Machine

open Diagnostic Text

/-! ### Steps that launch nothing -/

/-- From one state to the other, nothing was launched. -/
def State.Quietly (s s' : State) : Prop :=
  ∃ told : List Effect, s'.trace = s.trace ++ told.toArray ∧ Quiet told

namespace State.Quietly

variable {s s' s'' : State}

theorem of_trace_eq (h : s'.trace = s.trace) : Quietly s s' := ⟨[], by simp [h], by simp [Quiet]⟩

theorem trans (h : Quietly s s') (h' : Quietly s' s'') : Quietly s s'' := by
  obtain ⟨told, htrace, hquiet⟩ := h
  obtain ⟨told', htrace', hquiet'⟩ := h'
  exact ⟨told ++ told', by simp [htrace, htrace'], hquiet.append hquiet'⟩

theorem emit (s : State) {e : Effect} (he : e.isLaunch = false) : Quietly s (s.emit e) :=
  ⟨[e], by simp [State.emit], by simpa [Quiet] using he⟩

theorem emitAll (s : State) {es : List Effect} (hes : Quiet es) : Quietly s (s.emitAll es) :=
  ⟨es, by simp [emitAll_eq], hes⟩

end State.Quietly

namespace Sound

variable {σ : Scene} {s s' : State} {v : Shared} {t : TaskId} {request : Request}

/-- Asking for the lock of the runner takes it from nobody. -/
theorem acquire (h : Sound σ (some t) s v) :
    Sound σ (some t) (s.modifyRunner 0 fun r => { r with lock := r.lock.acquire t })
      { v with lock := v.lock.acquire t } := by
  refine h.spares rfl rfl rfl rfl ?_ h.session rfl rfl rfl (fun _ => id) (fun _ => .inl) ?_
  · simp [State.modifyRunner, h.runners]
  · intro t' _
    refine .of_begun_eq rfl rfl (fun ho => ?_) (fun hturn => ⟨hturn, rfl, rfl⟩) fun _ hb => ⟨hb, rfl⟩
    simp only [Lock.acquire]
    split
    · next hnone => simp [hnone] at ho
    · exact ho

/-- The lock is given back by the task that has it. -/
theorem release (h : Sound σ (some t) s v) (howner : v.lock.owner = some t) :
    Sound σ (some t) (s.releaseRunner 0) { v with lock := v.lock.release } := by
  refine h.spares rfl rfl rfl rfl ?_ h.session rfl rfl rfl (fun _ => id) (fun _ => .inl) ?_
  · simp [State.releaseRunner, State.modifyRunner, h.runners]
  · intro t' hne
    refine .of_begun_eq rfl rfl (fun ho => ?_) (fun hturn => ⟨hturn, rfl, rfl⟩) fun _ hb => ⟨hb, rfl⟩
    exact absurd (ho.symm.trans howner) hne

/-- A pass asks for its turn. -/
theorem acquireTurn (h : Sound σ (some t) s v) :
    Sound σ (some t) (s.modifySession fun q => { q with lock := q.lock.acquire t })
      { v with turns := v.turns.acquire t } := by
  refine h.spares rfl rfl rfl rfl h.runners ?_ rfl rfl rfl (fun _ => id) (fun _ => .inl) ?_
  · simp [State.modifySession, h.session, Function.comp_def]
  · intro t' _
    refine .of_begun_eq rfl rfl id (fun hturn => ⟨?_, rfl, rfl⟩) fun _ hb => ⟨hb, rfl⟩
    simp only [Lock.acquire]
    split
    · next hnone => simp [hnone] at hturn
    · exact hturn

/-- A pass gives its turn back. -/
theorem releaseTurn (h : Sound σ (some t) s v) (hturn : v.turns.owner = some t) :
    Sound σ (some t) (s.modifySession fun q => { q with lock := q.lock.release })
      { v with turns := v.turns.release } := by
  refine h.spares rfl rfl rfl rfl h.runners ?_ rfl rfl rfl (fun _ => id) (fun _ => .inl) ?_
  · simp [State.modifySession, h.session, Function.comp_def]
  · intro t' hne
    refine .of_begun_eq rfl rfl id (fun hturn' => ?_) fun _ hb => ⟨hb, rfl⟩
    exact absurd (hturn'.symm.trans hturn) hne

/-- A pass whose turn has come notes the diagnostics that it finds. -/
theorem opens (h : Sound σ (some t) s v) (hturn : v.turns.owner = some t) :
    Sound σ (some t) s { v with account := { v.account with base := some (t, v.ledger) } } := by
  refine h.spares rfl rfl rfl rfl h.runners h.session rfl rfl rfl (fun _ => id) (fun _ => .inl) ?_
  intro t' hne
  refine .of_begun_eq rfl rfl id (fun hturn' => ?_) fun base hbase => ?_
  · exact absurd (hturn'.symm.trans hturn) hne
  · simp only [Option.some.injEq, Prod.mk.injEq] at hbase
    exact absurd (congrArg some hbase.1.symm) hne

/-- The invocation of the task that acts has ended. -/
theorem ends (h : Sound σ (some t) s v) {x : Invocation} (hx : x.task = t) :
    Sound σ (some t) s
      { v with account := { v.account with ended := v.account.ended ++ [x] } } := by
  refine h.spares rfl rfl rfl rfl h.runners h.session rfl rfl rfl (fun _ => id) ?_ ?_
  · intro y hy
    rcases List.mem_append.mp hy with hy | hy
    · exact .inl hy
    · rw [List.mem_singleton.mp hy, hx]
      exact .inr (h.present t rfl)
  · intro t' hne
    refine .of_begun_eq rfl ?_ id (fun hturn => ⟨hturn, rfl, rfl⟩) fun _ hb => ⟨hb, rfl⟩
    have hother : ¬x.task = t' := fun heq => hne (congrArg some (heq.symm.trans hx))
    simp [List.filter_append, hother]

/-- The pass that has the turn applies a report, or fails to. -/
theorem enterReport (h : Sound σ (some t) s v) {q : Session} (hq : σ.session = some q)
    (hturn : v.turns.owner = some t) {base : Ledger} (hbase : v.account.base = some (t, base))
    (folder : Path) (report : Option Report) :
    ∃ ledger, Sound σ (some t) (s.enterReport folder report).1 { v with ledger } ∧
      s.Quietly (s.enterReport folder report).1 ∧
      ((s.enterReport folder report).2 = .ok () → ∀ reports, Applied q base reports v.ledger →
        Applied q base (reports ++ [(folder, report)]) ledger) := by
  have hs : s.session = some { q with lock := v.turns, ledger := v.ledger } := by
    rw [h.session, hq]
    rfl
  rcases hrun : (Ledger.enterReport q.documents s.files q.publisher folder report).run v.ledger with
    ⟨ledger, effects, result⟩
  have hquiet : Quiet effects := by
    refine .of_tells fun e he => ?_
    have heffects := v.ledger.enterReport_effects q.documents s.files q.publisher folder report
    rw [hrun] at heffects
    rcases heffects e he with ⟨_, rfl⟩ | ⟨_, rfl⟩ <;> rfl
  have hentered := State.edit_eq hs
    (fun q => Ledger.enterReport q.documents s.files q.publisher folder report) hrun
  rw [State.enterReport, hentered]
  refine ⟨ledger, ?_, ⟨effects, rfl, hquiet⟩, ?_⟩
  · refine h.spares rfl rfl rfl rfl h.runners (by simp [hq]) rfl rfl rfl (fun _ => id)
      (fun _ => .inl) ?_
    intro t' hne
    refine .of_begun_eq rfl rfl id (fun hturn' => ?_) fun base' hbase' => ?_
    · exact absurd (hturn'.symm.trans hturn) hne
    · obtain ⟨rfl, _⟩ := Prod.mk.inj (Option.some.inj (hbase'.symm.trans hbase))
      exact absurd rfl hne
  · intro hok reports happlied
    cases result with
    | error e => simp [Except.map] at hok
    | ok grouped => exact .concat happlied hrun

/-- A process is asked for under the lock, after the old report was removed. -/
theorem launch (h : Sound σ (some t) s v) (hasks : σ.asked[t]? = some request)
    (howner : v.lock.owner = some t) (hheld : v.held request = some t)
    (hcurrent : Current σ v.account (v.held request) t request) {files : FileTree}
    (hremove : s.files.remove σ.settings.reportPath = .ok files) :
    Sound σ (some t) { s with files } { v with account := v.account.launch (some t) } where
  calls := h.calls
  present := h.present
  unsupervised := h.unsupervised
  runners := h.runners
  session := h.session
  stands t' task hne htask := by
    obtain ⟨request', hasks', hstands⟩ := h.stands t' task hne htask
    have hne' : t' ≠ t := fun heq => hne (congrArg some heq)
    have hspares : Spares σ t' v { v with account := v.account.launch (some t) } := by
      refine ⟨rfl, ?_, id, ?_, fun hturn => ⟨hturn, rfl, rfl⟩, fun _ hbase => ⟨hbase, rfl⟩⟩
      · simp [Account.launch, hne']
      · -- Whoever else has launched a process and goes on is a pass, and this task is none.
        intro request'' hasks'' hcurrent' ht'
        obtain ⟨hheld', hlast'⟩ := hcurrent' (by simpa [Account.launch, hne'] using ht')
        have hpasses : request''.isPass ∧ request.isPass = false := by
          unfold Shared.held at hheld hheld'
          cases hpass' : request''.isPass <;> cases hpass : request.isPass <;>
            simp_all
        refine ⟨hheld', ?_⟩
        simp only [Account.launch, Option.toList_some]
        rw [rivals_concat hasks, if_pos hpasses, List.append_nil]
        exact hlast'
    exact ⟨request', hasks', hspares.stands hasks' hstands⟩
  fresh t' ht' := by
    obtain ⟨hnew, hnone⟩ := h.fresh t' ht'
    refine ⟨?_, hnone⟩
    have hne : t' ≠ t := (Nat.ne_of_lt (Nat.lt_of_lt_of_le (h.present t rfl) ht')).symm
    simpa [Account.launch, hne] using hnew
  attended := h.attended
  created := h.created
  holds _ := FileTree.holds_of_remove hremove
  together t' request' hasks' := by
    have hold := h.together t' request' hasks'
    rw [Account.launch, Option.toList_some, rivals_concat hasks]
    split
    · rwa [List.append_nil]
    · refine hold.concat ?_
      rintro rfl ht
      obtain rfl : request' = request := Option.some.inj (hasks'.symm.trans hasks)
      exact (hcurrent ((mem_rivals hasks).mp ht)).2

end Sound

/-! ### To the next point where a task waits -/

/-- Where a task gets by itself: everything stands where it should, and at most one process was
asked for, at the very end. -/
inductive Reaches (σ : Scene) (t : TaskId) (s : State) (a : Account) (s' : State) : Prop where
  | quiet {v : Shared} (quietly : s.Quietly s') (sound : Sound σ none s' v) (account : v.account = a)
  | launches {told : List Effect} {launch : Launch} {v : Shared}
      (trace : s'.trace = s.trace ++ (told ++ [Effect.launch launch]).toArray) (quiet : Quiet told)
      (sound : Sound σ none s' v) (account : v.account = a.launch (some t))

section Walks

variable {σ : Scene} {s s' : State} {v : Shared} {a : Account} {t : TaskId} {request : Request}
  {w : Work} {stage : BatchStage} {rest : List Path}

theorem Reaches.after {s'' : State} (h : Reaches σ t s' a s'') (hquietly : s.Quietly s') :
    Reaches σ t s a s'' := by
  cases h with
  | quiet hquietly' hsound haccount => exact .quiet (hquietly.trans hquietly') hsound haccount
  | @launches told' launch _ htrace hquiet hsound haccount =>
      obtain ⟨told, htold, hquiet'⟩ := hquietly
      have htrace' : s''.trace = s.trace ++ (told ++ told' ++ [Effect.launch launch]).toArray := by
        simp [htrace, htold]
      exact .launches htrace' (hquiet'.append hquiet) hsound haccount

theorem Reaches.of_trace_eq {s'' : State} (h : Reaches σ t s' a s'') (htrace : s'.trace = s.trace) :
    Reaches σ t s a s'' :=
  h.after (.of_trace_eq htrace)

theorem Sound.reaches (h : Sound σ (some t) s v) (hasks : σ.asked[t]? = some request) {task : Task}
    (hstands : Stands σ v t request task) (hidle : task.process? = none) :
    Reaches σ t s v.account (s.setTask t task) :=
  .quiet (.of_trace_eq rfl) (h.setTask hasks hstands hidle) rfl

/-- A pass ends. -/
theorem Sound.endPass (h : Sound σ (some t) s v) (hasks : σ.asked[t]? = some request)
    (hpass : request.isPass) (hturn : v.turns.owner = some t) (r : Except Fault Answer)
    (happlied : ∀ answer q base, r = .ok answer → σ.session = some q →
      v.account.base = some (t, base) → ∃ folders, q.compiledFolders = .ok folders ∧
        Applied q base (v.account.reports t 0 folders) v.ledger) :
    Reaches σ t s v.account (s.endPass t r) :=
  .of_trace_eq ((h.releaseTurn hturn).reaches hasks (.passed hpass r happlied) rfl) rfl

/-- Work that failed for good gives the locks back. -/
theorem Sound.failWork (h : Sound σ (some t) s v) (hasks : σ.asked[t]? = some request)
    (hrunner : w.runner = 0) (howner : v.lock.owner = some t)
    (hmidway : Midway σ v.account v.turns.owner v.ledger t request w.stage rest) {e : Fault}
    (he : Refused σ t e) : Reaches σ t s v.account (s.failWork t w e) := by
  have hreleased := h.release howner
  rw [State.failWork, hrunner]
  suffices hends : Reaches σ t (s.releaseRunner 0) v.account
      ((s.releaseRunner 0).closeWork t w.stage (.error e)) from hends.of_trace_eq rfl
  generalize w.stage = stage at hmidway
  cases hmidway with
  | single | all => exact hreleased.reaches hasks (.refused rfl he) rfl
  | pass hpass _ _ hturn _ _ =>
      refine hreleased.endPass hasks hpass hturn (.error e) ?_
      intro answer q base hr
      cases hr

/-- The report of the next folder is put to those before it. -/
theorem Midway.next {a : Account} {turn : Option TaskId} {ledger : Ledger} {folder : Path}
    {done : List (Path × Option Report)}
    (h : Midway σ a turn ledger t request (.all done) (folder :: rest)) :
    Midway σ a turn ledger t request (.all ((folder, a.report t rest.length) :: done)) rest := by
  cases h with
  | all compiled =>
      have hfolders : compiled ++ folder :: rest = compiled ++ [folder] ++ rest := by simp
      have hdone : (folder, a.report t rest.length) ::
          (a.reports t (folder :: rest).length compiled).reverse =
            (a.reports t rest.length (compiled ++ [folder])).reverse := by
        rw [Account.reports_concat, List.reverse_concat, List.length_cons]
      rw [hfolders, hdone]
      exact .all _ _

/-- The folders after the first are compiled, if this is known to go well. -/
def GoesOn (σ : Scene) (t : TaskId) (request : Request) (rest : List Path) : Prop :=
  ∀ (s : State) (v : Shared) (stage : BatchStage) (owned : Bool), Sound σ (some t) s v →
    Ahead σ v t request stage rest → (owned → v.lock.owner = some t) →
    (∀ done, stage = .all done → owned) →
    Reaches σ t s v.account (s.runFolders t 0 stage owned rest)

/-- The session's runner is the only one. -/
structure Scene.Batch (σ : Scene) : Prop where
  mode : ∀ q, σ.session = some q → q.settings.mode = .batch
  runner : ∀ q, σ.session = some q → q.runner = some 0

/-- A folder's compile has ended, and its report is the one that is known. -/
theorem Sound.compiled_of (hσ : σ.Batch) (h : Sound σ (some t) s v)
    (hasks : σ.asked[t]? = some request) (hrunner : w.runner = 0)
    (howner : v.lock.owner = some t)
    (hmidway : Midway σ v.account v.turns.owner v.ledger t request w.stage (w.folder :: w.rest))
    (hended : ∀ x ∈ v.account.ended, x.task = t → w.rest.length ≤ x.left)
    (hcurrent : Current σ v.account (v.held request) t request)
    (hnext : GoesOn σ t request w.rest) :
    Reaches σ t s v.account (s.compiled t w (v.account.report t w.rest.length)) := by
  cases hstage : w.stage with
  | single =>
      rw [State.compiled_single s t hstage, hrunner]
      rw [hstage] at hmidway
      generalize w.folder = folder, w.rest = rest at *
      cases hmidway
      exact .of_trace_eq ((h.release howner).reaches hasks (.report _) rfl) rfl
  | all done =>
      rw [State.compiled_all s t hstage, hrunner]
      rw [hstage] at hmidway
      exact hnext s v _ true h ⟨hmidway.next, hended, hcurrent⟩ (fun _ => howner) fun _ _ => rfl
  | pass =>
      rw [State.compiled_pass s t hstage, hrunner]
      rw [hstage] at hmidway
      generalize w.folder = folder, w.rest = rest at *
      cases hmidway with
      | @pass _ q base compiled _ hpass hq hfolders hturn hbase happlied =>
          obtain ⟨ledger, hentered, hquietly, hok⟩ :=
            (h.release howner).enterReport hq hturn hbase folder (v.account.report t rest.length)
          refine Reaches.after ?_ ((State.Quietly.of_trace_eq rfl).trans hquietly)
          generalize (s.releaseRunner 0).enterReport folder _ = entered at hentered hok ⊢
          obtain ⟨s', result⟩ := entered
          cases result with
          | error e =>
              refine hentered.endPass hasks hpass hturn (.error e) ?_
              intro answer q base hr
              cases hr
          | ok _ =>
              have hs' : s'.session.bind (·.runner) = some 0 := by
                rw [hentered.session, hq]
                exact hσ.runner q hq
              have hfolders' : q.compiledFolders = .ok (compiled ++ [folder] ++ rest) := by
                simpa using hfolders
              have happlied' : Applied q base (v.account.reports t rest.length (compiled ++ [folder]))
                  ledger := by
                rw [Account.reports_concat]
                exact hok rfl _ happlied
              have hahead : Ahead σ { v with lock := v.lock.release, ledger } t request .pass rest := by
                refine ⟨.pass hpass hq hfolders' hturn hbase happlied', hended, ?_⟩
                intro ht
                obtain ⟨_, hlast⟩ := hcurrent ht
                exact ⟨by rwa [Shared.held, if_pos hpass], hlast⟩
              simp only [hs', Option.getD_some]
              exact hnext s' { v with lock := v.lock.release, ledger } .pass false hentered hahead
                (by simp) (by simp)

theorem Sound.compileFailed_of (hσ : σ.Batch) (h : Sound σ (some t) s v)
    (hasks : σ.asked[t]? = some request) (hrunner : w.runner = 0)
    (howner : v.lock.owner = some t)
    (hmidway : Midway σ v.account v.turns.owner v.ledger t request w.stage (w.folder :: w.rest))
    (hended : ∀ x ∈ v.account.ended, x.task = t → w.rest.length ≤ x.left)
    (hcurrent : Current σ v.account (v.held request) t request)
    (hnone : v.account.report t w.rest.length = none) {e : Fault}
    (he : (∃ error, e = .os error) ∨ e = .compileTimeout ∨ Refused σ t e)
    (hnext : GoesOn σ t request w.rest) :
    Reaches σ t s v.account (s.compileFailed t w e) := by
  have hgoes (entry : Effect) (hentry : entry.isLaunch = false) :
      Reaches σ t s v.account ((s.emit entry).compiled t w none) := by
    rw [← hnone]
    exact ((h.emit entry).compiled_of hσ hasks hrunner howner hmidway hended hcurrent hnext).after
      (.emit s hentry)
  rcases he with ⟨error, rfl⟩ | rfl | hrefused
  · exact hgoes _ rfl
  · exact hgoes _ rfl
  · have hfails : s.compileFailed t w e = s.failWork t w e := by
      unfold State.compileFailed State.invocationFailed
      split
      · next hok =>
          split at hok
          · exact absurd rfl (hrefused.not_os _)
          · exact absurd rfl hrefused.not_timeout
          · cases hok
      · next herror =>
          split at herror
          · exact absurd rfl (hrefused.not_os _)
          · exact absurd rfl hrefused.not_timeout
          · cases herror
            rfl
    rw [hfails]
    exact h.failWork hasks hrunner howner hmidway hrefused

/-- What is done about the first of some folders. -/
theorem State.runFolders_cons_eq (s : State) (t : TaskId) (runner : RunnerId) (stage : BatchStage)
    (owned : Bool) (folder : Path) (rest : List Path) :
    s.runFolders t runner stage owned (folder :: rest) =
      let s := if owned then s
        else s.modifyRunner runner fun r => { r with lock := r.lock.acquire t }
      match s.runners[runner]? with
      | none => s
      | some r =>
        if r.lock.owner ≠ some t then s.setTask t (.runnerTurn ⟨runner, folder, rest, stage⟩)
        else
          match s.beginCompile r.settings folder with
          | (s, .ok ()) => s.setTask t (.runnerLaunching ⟨runner, folder, rest, stage⟩)
          | (s, .error e) => s.compileFailed t ⟨runner, folder, rest, stage⟩ e := by
  rw [runFolders]
  simp only
  generalize (if owned then s
    else s.modifyRunner runner fun r => { r with lock := r.lock.acquire t }) = s1
  cases s1.runners[runner]? with
  | none => rfl
  | some r =>
      simp only
      split
      · rfl
      · rcases s1.beginCompile r.settings folder with ⟨s', e | _⟩
        · simp only [compileFailed]
          rcases invocationFailed_cases s' folder e with ⟨entry, hfailed⟩ | hfailed
          · simp only [hfailed]
            rfl
          · simp only [hfailed]
        · rfl

/-- A task that has the lock begins with the first of its folders. -/
theorem Sound.beginCompile_of (hσ : σ.Batch) (h : Sound σ (some t) s v)
    (hasks : σ.asked[t]? = some request) (howner : v.lock.owner = some t) {folder : Path}
    (hahead : Ahead σ v t request stage (folder :: rest)) (hnext : GoesOn σ t request rest) :
    Reaches σ t s v.account
      (match s.beginCompile σ.settings folder with
      | (s, .ok ()) => s.setTask t (.runnerLaunching ⟨0, folder, rest, stage⟩)
      | (s, .error e) => s.compileFailed t ⟨0, folder, rest, stage⟩ e) := by
  have hheld := hahead.midway.held howner
  unfold State.beginCompile
  generalize hentry : Effect.info ("Compiling datapack " ++ folder.toText) = entry
  have hquiet : entry.isLaunch = false := by
    rw [← hentry]
    rfl
  cases hremove : s.files.remove σ.settings.reportPath with
  | error e =>
      have hremove' : (s.emit entry).files.remove σ.settings.reportPath = .error e := hremove
      simp only [hremove']
      refine Reaches.after ?_ (.emit s hquiet)
      refine (h.emit entry).compileFailed_of hσ hasks rfl howner hahead.midway ?_ hahead.current ?_
        ?_ hnext
      · exact fun x hx hxt => Nat.le_of_succ_le (hahead.ended x hx hxt)
      · exact Account.report_eq_none hahead.ended
      · rcases FileTree.remove_error hremove with ⟨rfl, hnull⟩ | hos
        · exact .inr (.inr ⟨nofun, nofun, .inr ⟨rfl, hnull⟩⟩)
        · exact .inl hos
  | ok files =>
      have hremove' : (s.emit entry).files.remove σ.settings.reportPath = .ok files := hremove
      simp only [hremove']
      have hlaunched := (((h.emit entry).launch hasks howner hheld hahead.current hremove').emit
        (.launch (State.oneShotLaunch σ.settings folder)))
      have htrace : ((s.emit entry).emit (.launch (State.oneShotLaunch σ.settings folder))).trace =
          s.trace ++ ([entry] ++ [Effect.launch (State.oneShotLaunch σ.settings folder)]).toArray :=
        congrArg State.trace (State.emitAll_eq s [entry, .launch _])
      have htold : Quiet [entry] := by simpa [Quiet] using hquiet
      refine .launches htrace htold
        (hlaunched.setTask hasks (.works .launching rfl ⟨?_, hahead.ended, ?_⟩ ?_) rfl) rfl
      · exact hahead.midway.congr (Account.reports_congr rfl) fun hturn => ⟨hturn, rfl, rfl⟩
      · intro _
        refine ⟨hheld, ?_⟩
        simp only [Account.launch, Option.toList_some]
        rw [rivals_concat hasks, if_neg (by simp), List.getLast?_concat]
      · intro _
        exact ⟨howner, by simp [Account.launch]⟩

/-- A task goes on with its folders up to the next point where it waits. -/
theorem goesOn (hσ : σ.Batch) (hasks : σ.asked[t]? = some request) (rest : List Path) :
    GoesOn σ t request rest := by
  induction rest with
  | nil =>
      intro s v stage owned h hahead howner hall
      rw [State.runFolders]
      cases hahead.midway with
      | all compiled =>
          have hreleased := h.release (howner (hall _ rfl))
          rw [State.closeFolders, List.reverse_reverse, List.append_nil] at *
          exact .of_trace_eq (hreleased.reaches hasks (.reports compiled) rfl) rfl
      | pass hpass hq hfolders hturn hbase happlied =>
          refine h.endPass hasks hpass hturn (.ok .nothing) ?_
          intro answer q' base' _ hq' hbase'
          obtain rfl := Option.some.inj (hq'.symm.trans hq)
          obtain ⟨_, rfl⟩ := Prod.mk.inj (Option.some.inj (hbase'.symm.trans hbase))
          exact ⟨_, hfolders.trans (by rw [List.append_nil]), happlied⟩
  | cons folder rest ih =>
      intro s v stage owned h hahead howner hall
      rw [State.runFolders_cons_eq]
      -- The lock is asked for, unless the task has it.
      obtain ⟨lock, s1, hs1, hsound, htrace, hkept⟩ : ∃ lock s1,
          (if owned then s else s.modifyRunner 0 fun r => { r with lock := r.lock.acquire t }) = s1 ∧
          Sound σ (some t) s1 { v with lock } ∧ s1.trace = s.trace ∧
          (v.lock.owner = some t → lock.owner = some t) := by
        cases owned with
        | true => exact ⟨v.lock, s, rfl, h, rfl, id⟩
        | false =>
            refine ⟨v.lock.acquire t, _, rfl, h.acquire, rfl, fun ho => ?_⟩
            simp [Lock.acquire, ho]
      have hahead' : Ahead σ { v with lock } t request stage (folder :: rest) := by
        refine ⟨hahead.midway, hahead.ended, fun ht => ?_⟩
        obtain ⟨hheld, hlast⟩ := hahead.current ht
        refine ⟨?_, hlast⟩
        unfold Shared.held at hheld ⊢
        split at hheld
        · next hpass => rw [if_pos hpass, hheld]
        · next hcall => rw [if_neg hcall, hkept hheld]
      have hlocked : s1.runners[0]? = some ⟨σ.settings, lock⟩ := by
        rw [hsound.runners]
        rfl
      simp only [hs1, hlocked]
      refine Reaches.of_trace_eq ?_ htrace
      split
      · exact hsound.reaches hasks (.works .turn rfl hahead' (by rintro ⟨⟩)) rfl
      · next howner' =>
          rw [ne_eq, Decidable.not_not] at howner'
          exact hsound.beginCompile_of hσ hasks howner' hahead' ih

end Walks

end Machine

end Datapack
