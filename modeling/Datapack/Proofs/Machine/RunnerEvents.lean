import Datapack.Proofs.Machine.SerialCompiles

/-! What can happen to a runner and the session that it belongs to. Every event leaves all tasks
where they should stand, and adds to the account of invocations what it should. -/

namespace Datapack.Machine

open Diagnostic Text

/-- What is asked of a runner, or of the session that it belongs to. -/
def Request.ofRunner : Request → Bool
  | runFolder 0 _ | runAll 0 _ | save _ | compile => true
  | _ => false

def Event.ofRunner (e : Event) : Bool := e.request?.all (·.ofRunner)

/-! ### Reports -/

theorem quiet_outputEntries (q : Process) : Quiet (State.outputEntries q) := by
  intro e he
  obtain ⟨entry, rfl⟩ := State.log_of_mem_outputEntries e he
  rfl

/-- What is taken as the report is what the file holds, if it can be decoded. -/
theorem State.takeReport_of_holds {s : State} {settings : Settings} {written : Option Bytes}
    (h : s.files.Holds settings.reportPath written) (folder : Path) :
    ∃ entry, entry.isLaunch = false ∧ s.takeReport settings folder =
      (s.emit entry, .ok (written.bind fun bytes => (Report.decode bytes).toOption)) := by
  unfold State.takeReport State.loadReport
  cases written with
  | none =>
      obtain ⟨error, hread⟩ := h
      simp only [hread]
      cases error <;> exact ⟨_, rfl, rfl⟩
  | some bytes =>
      simp only [FileTree.Holds] at h
      simp only [h]
      cases hdecode : Report.decode bytes with
      | ok report =>
          simp only [hdecode, Except.toOption, Option.bind_some]
          exact ⟨_, rfl, rfl⟩
      | error issues =>
          simp only [hdecode, Except.toOption, Option.bind_some]
          exact ⟨_, rfl, rfl⟩

/-! ### Events that leave the tasks alone -/

namespace Sound

variable {σ : Scene} {s s' : State} {v : Shared} {t : TaskId} {request : Request} {w : Work}

/-- Processes may write and exit, but none comes to life. -/
theorem processes (h : Sound σ none s v) {processes : List Process}
    (hlength : processes.length = s.processes.length)
    (halive : ∀ p, ({ s with processes } : State).isAlive p → s.isAlive p) :
    Sound σ none { s with processes } v := by
  refine { h with attended := fun p hp => h.attended p (halive p hp), created := ?_ }
  intro t task p htask hp
  exact hlength ▸ h.created t task p htask hp

theorem modifyProcess (h : Sound σ none s v) (p : ProcessId) {f : Process → Process}
    (hf : ∀ q, (f q).isAlive → q.isAlive) : Sound σ none (s.modifyProcess p f) v := by
  refine h.processes (List.length_modify ..) ?_
  intro p' hp'
  simp only [State.isAlive, List.getElem?_modify] at hp' ⊢
  cases hq : s.processes[p']? with
  | none => simp [hq] at hp'
  | some q =>
      simp only [hq, Option.map_some, Option.getD_some] at hp' ⊢
      split at hp'
      · exact hf q hp'
      · exact hp'

/-- Something is written to a file. -/
theorem writes (h : Sound σ none s v) {files : FileTree} {written : Option Bytes}
    (hholds : v.account.begun ≠ [] → files.Holds σ.settings.reportPath written) :
    Sound σ none { s with files } { v with account := { v.account with written } } := by
  refine { h with holds := hholds, stands := ?_ }
  intro t task hne htask
  obtain ⟨request, hasks, hstands⟩ := h.stands t task hne htask
  have hspares := Spares.of_account σ t v { v.account with written } rfl rfl rfl
  exact ⟨request, hasks, hspares.stands hasks hstands⟩

/-- A process is given up that cannot be waited for. -/
theorem abandons (h : Sound σ none s v) (p : ProcessId) :
    Sound σ none s
      { v with account := { v.account with abandoned := v.account.abandoned ++ [p] } } := by
  refine h.spares rfl rfl rfl rfl h.runners h.session rfl rfl rfl ?_ (fun _ => .inl) ?_
  · exact fun p' hp' => List.mem_append_left _ hp'
  · exact fun t _ => .of_account σ t v _ rfl rfl rfl

/-- A task goes on to wait for a process, the same as before or a new one. -/
theorem retask (h : Sound σ none s v) {task task' : Task} (htask : s.tasks[t]? = some task)
    (hasks : σ.asked[t]? = some request) (hstands : Stands σ v t request task')
    (processes : List Process) (hgrows : s.processes.length ≤ processes.length)
    (halive : ∀ p, ({ s with processes } : State).isAlive p →
      s.isAlive p ∨ task'.process? = some p)
    (hkeeps : ∀ p, task.process? = some p → task'.process? = some p)
    (hcreated : ∀ p, task'.process? = some p → p < processes.length) :
    Sound σ none ({ s with processes }.setTask t task') v := by
  have ht : t < s.tasks.length := (List.getElem?_eq_some_iff.mp htask).1
  have hnew : ({ s with processes }.setTask t task').tasks[t]? = some task' :=
    List.getElem?_set_self ht
  exact {
    calls := by rw [← h.calls, State.setTask, List.length_set]
    present := nofun
    unsupervised := h.unsupervised
    runners := h.runners
    session := h.session
    stands := fun t' task'' _ htask'' =>
      stands_setTask (s := s) ht hasks hstands (fun t' task'' _ => h.stands t' task'' nofun)
        t' task'' htask''
    fresh := fun t' ht => h.fresh t' (by simpa [State.setTask] using ht)
    attended := by
      intro p hp
      rcases halive p hp with hp | hp
      · refine (h.attended p hp).imp_right ?_
        rintro ⟨t', waits, _, hwaits, hp'⟩
        by_cases heq : t' = t
        · subst heq
          obtain rfl : waits = task := Option.some.inj (hwaits.symm.trans htask)
          exact ⟨t', task', nofun, hnew, hkeeps p hp'⟩
        · exact ⟨t', waits, nofun, by rwa [State.setTask_other heq], hp'⟩
      · exact .inr ⟨t, task', nofun, hnew, hp⟩
    created := by
      intro t' task'' p htask'' hp
      by_cases heq : t' = t
      · subst heq
        rw [← Option.some.inj (hnew.symm.trans htask'')] at hp
        exact hcreated p hp
      · rw [State.setTask_other heq] at htask''
        exact Nat.lt_of_lt_of_le (h.created t' task'' p htask'' hp) hgrows
    holds := h.holds
    together := h.together }

/-- A request comes, for which nothing was done yet. -/
theorem addTask (h : Sound σ none s v) (r : Except Fault Answer) :
    Sound σ (some s.tasks.length) { s with tasks := s.tasks ++ [.finished r] }
      { v with account := { v.account with calls := v.account.calls + 1 } } where
  calls := by simp [h.calls]
  present t' ht' := by
    cases ht'
    simp
  unsupervised := h.unsupervised
  runners := h.runners
  session := h.session
  stands t' task hne htask := by
    have hold : s.tasks[t']? = some task := by
      rcases Nat.lt_trichotomy t' s.tasks.length with hlt | rfl | hgt
      · rwa [List.getElem?_append_left hlt] at htask
      · exact absurd rfl hne
      · rw [List.getElem?_eq_none (by simpa using Nat.succ_le_of_lt hgt)] at htask
        cases htask
    obtain ⟨request, hasks, hstands⟩ := h.stands t' task nofun hold
    have hspares :=
      Spares.of_account σ t' v { v.account with calls := v.account.calls + 1 } rfl rfl rfl
    exact ⟨request, hasks, hspares.stands hasks hstands⟩
  fresh t' ht := h.fresh t' (Nat.le_trans (Nat.le_succ _) (by simpa using ht))
  attended p hp := by
    refine (h.attended p hp).imp_right ?_
    rintro ⟨t', task, _, htask, hp'⟩
    have hlt := (List.getElem?_eq_some_iff.mp htask).1
    refine ⟨t', task, ?_, ?_, hp'⟩
    · exact fun heq => Nat.lt_irrefl _ (Option.some.inj heq ▸ hlt)
    · rwa [List.getElem?_append_left hlt]
  created t' task p htask hp := by
    rcases Nat.lt_trichotomy t' s.tasks.length with hlt | rfl | hgt
    · rw [List.getElem?_append_left hlt] at htask
      exact h.created t' task p htask hp
    · rw [List.getElem?_concat_length] at htask
      cases htask
      cases hp
    · rw [List.getElem?_eq_none (by simpa using Nat.succ_le_of_lt hgt)] at htask
      cases htask
  holds := h.holds
  together := h.together

end Sound

/-! ### Accounts -/

section Lands

variable {σ : Scene} {s s' : State} {v v' : Shared} {a : Account} {path : Path} {t : TaskId}
  {request : Request} {w : Work} {e : Event}

/-- An event that nobody waits for. -/
structure State.Ignores (s : State) (e : Event) : Prop where
  step : s.step e = s
  call : e.request? = none
  ending : ∀ written, s.ending? written e = none
  abandoned : s.abandoned? e = none
  opening : s.opening? e = none

/-- Whether a task waits for such an event. -/
def Task.awaits : Task → Event → Bool
  | compileTurn _, .proceed _ | writeTurn .., .proceed _ | reaping .., .proceed _ => true
  | runnerTurn _, .proceed _ | emptyTurn _, .proceed _ => true
  | launching .., .launched .. | runnerLaunching _, .launched .. => true
  | flushing .., .flushed .. => true
  | exiting .., .exitSeen _ | running .., .exitSeen _ | runnerReaping .., .exitSeen _ => true
  | exiting .., .timeout _ | running .., .timeout _ => true
  | running .., .waitFailed .. => true
  | _, _ => false

theorem State.ignores_of_not_awaits {task : Task} (htask : s.tasks[t]? = some task)
    (he : e.task? = some t) (h : task.awaits e = false) : s.Ignores e := by
  cases e with
  | launched t result =>
      cases he
      cases task <;> first
        | (cases h; done)
        | cases result <;> constructor <;>
            simp [State.step, State.ending?, State.abandoned?, State.opening?, Event.request?, htask]
  | _ =>
      cases he <;> cases task <;> first
        | (cases h; done)
        | constructor <;>
            simp [State.step, State.proceed, State.exitSeen, State.timeout, State.ending?,
              State.abandoned?, State.opening?, Event.request?, htask]

theorem State.ignores_of_none (htask : s.tasks[t]? = none) (he : e.task? = some t) :
    s.Ignores e := by
  cases e with
  | launched t result =>
      cases he
      constructor <;> cases result <;>
        simp [State.step, State.ending?, State.abandoned?, State.opening?, Event.request?, htask]
  | _ =>
      cases he <;> constructor <;>
        simp [State.step, State.proceed, State.exitSeen, State.timeout, State.ending?,
          State.abandoned?, State.opening?, Event.request?, htask]

/-- After an event everything stands where it should, and the account was kept. -/
def Lands (σ : Scene) (s : State) (v : Shared) (e : Event) : Prop :=
  ∃ v', Sound σ none (s.step e) v' ∧ v'.account = v.account.after σ.settings.reportPath s e

theorem Account.after_of_trace {es : List Effect} (h : (s.step e).trace = s.trace ++ es.toArray) :
    a.after path s e = es.foldl (see (s.actor? e)) (a.record path s e) := by
  simp [after, State.effects, h]

theorem Account.record_of_task (he : e.task? = some t) :
    a.record path s e = { a with
      ended := a.ended ++ (s.ending? a.written e).toList
      abandoned := a.abandoned ++ (s.abandoned? e).toList
      base := (s.opening? e).or a.base } := by
  cases e <;> cases he <;> simp [record, Event.request?, writtenAfter]

theorem Account.record_of_call (request : Request) :
    a.record path s (.call request) =
      { a with calls := a.calls + 1, base := (s.opening? (.call request)).or a.base } := by
  simp [record, Event.request?, writtenAfter, State.ending?, State.abandoned?]

theorem Account.record_of_aside (he : e.task? = none) (hcall : e.request? = none) :
    a.record path s e = { a with written := a.writtenAfter path s e } := by
  cases e <;> simp_all [record, Event.task?, Event.request?, State.ending?, State.abandoned?,
    State.opening?]

theorem Sound.lands (h : Sound σ none (s.step e) v') (hquietly : s.Quietly (s.step e))
    (haccount : v'.account = v.account.record σ.settings.reportPath s e) : Lands σ s v e := by
  obtain ⟨told, htrace, hquiet⟩ := hquietly
  refine ⟨v', h, ?_⟩
  rw [haccount, Account.after_of_trace htrace, Account.foldl_see_of_quiet hquiet]

theorem Reaches.lands (h : Reaches σ t s a s') (hstep : s.step e = s')
    (hactor : s.actor? e = some t) (haccount : a = v.account.record σ.settings.reportPath s e) : Lands σ s v e := by
  subst hstep haccount
  cases h with
  | quiet hquietly hsound haccount => exact hsound.lands hquietly haccount
  | launches htrace hquiet hsound haccount =>
      refine ⟨_, hsound, ?_⟩
      rw [Account.after_of_trace htrace, List.foldl_append, Account.foldl_see_of_quiet hquiet,
        haccount, hactor]
      rfl

/-- Nothing is recorded of an event that nobody waits for. -/
theorem State.Ignores.record_eq (h : s.Ignores e) (hwritten : a.writtenAfter path s e = a.written) :
    a.record path s e = a := by
  simp [Account.record, h.call, h.ending, h.abandoned, h.opening, hwritten]

theorem Sound.ignores (h : Sound σ none s v) (hignores : s.Ignores e)
    (hwritten : v.account.writtenAfter σ.settings.reportPath s e = v.account.written) :
    Lands σ s v e := by
  have hsame : Sound σ none (s.step e) v := by rwa [hignores.step]
  exact hsame.lands (.of_trace_eq (by rw [hignores.step])) (hignores.record_eq hwritten).symm

/-! ### Folders -/

/-- When the invocation of a folder has ended, its report is known and the earlier ones stay. -/
theorem Ahead.ends {stage : BatchStage} {folder : Path} {rest : List Path}
    (h : Ahead σ v t request stage (folder :: rest)) {x : Invocation} (htask : x.task = t)
    (hleft : x.left = rest.length) {a : Account}
    (ha : a = { v.account with ended := v.account.ended ++ [x] }) :
    Midway σ a v.turns.owner v.ledger t request stage (folder :: rest) ∧
      (∀ y ∈ a.ended, y.task = t → rest.length ≤ y.left) ∧
      a.report t rest.length = x.report := by
  subst htask ha
  refine ⟨h.midway.congr ?_ fun hturn => ⟨hturn, rfl, rfl⟩, ?_, ?_⟩
  · exact Account.reports_of_ended rfl (hleft ▸ Nat.lt_succ_self _)
  · intro y hy hyt
    rcases List.mem_append.mp hy with hy | hy
    · exact Nat.le_of_succ_le (h.ended y hy hyt)
    · exact List.mem_singleton.mp hy ▸ hleft.ge
  · rw [← hleft]
    refine Account.report_of_ended rfl ?_
    intro y hy hyt
    exact hleft ▸ h.ended y hy hyt

/-- The invocation of a folder has failed. -/
theorem Sound.invocationFails (hσ : σ.Batch) (h : Sound σ (some t) s v)
    (hasks : σ.asked[t]? = some request) (hrunner : w.runner = 0) (howner : v.lock.owner = some t)
    (hahead : Ahead σ v t request w.stage (w.folder :: w.rest)) (written : Option Bytes) {e : Fault}
    (he : (∃ error, e = .os error) ∨ e = .compileTimeout ∨ Refused σ t e) :
    Reaches σ t s
      { v.account with ended := v.account.ended ++ [⟨t, w.rest.length, false, written⟩] }
      (s.compileFailed t w e) := by
  obtain ⟨hmidway, hended, hreport⟩ :=
    hahead.ends (x := ⟨t, w.rest.length, false, written⟩) rfl rfl rfl
  exact (h.ends rfl).compileFailed_of hσ hasks hrunner howner hmidway hended hahead.current hreport
    he (goesOn hσ hasks w.rest)

/-- The process of a folder has exited in time. -/
theorem Sound.invocationExits (hσ : σ.Batch) (h : Sound σ (some t) s v)
    (hasks : σ.asked[t]? = some request) (hrunner : w.runner = 0) (howner : v.lock.owner = some t)
    (hbegun : t ∈ v.account.begun) (hahead : Ahead σ v t request w.stage (w.folder :: w.rest))
    {p : ProcessId} {q : Process} (hq : s.processes[p]? = some q) :
    Reaches σ t s
      { v.account with ended := v.account.ended ++ [⟨t, w.rest.length, true, v.account.written⟩] }
      (s.oneShotExited t p w) := by
  have hbegan : v.account.begun ≠ [] := List.ne_nil_of_mem hbegun
  have hholds : (s.emitAll (State.outputEntries q)).files.Holds σ.settings.reportPath
      v.account.written := by
    rw [State.emitAll_eq]
    exact h.holds hbegan
  obtain ⟨entry, hentry, htaken⟩ := State.takeReport_of_holds hholds w.folder
  have hrunners : s.runners[0]? = some ⟨σ.settings, v.lock⟩ := by
    rw [h.runners]
    rfl
  obtain ⟨hmidway, hended, hreport⟩ :=
    hahead.ends (x := ⟨t, w.rest.length, true, v.account.written⟩) rfl rfl rfl
  simp only [State.oneShotExited, hq, hrunner, hrunners, htaken]
  have htold := (h.emitAll (State.outputEntries q)).emit entry
  have hgoes := (htold.ends rfl).compiled_of hσ hasks hrunner howner hmidway hended hahead.current
    (goesOn hσ hasks w.rest)
  rw [hreport] at hgoes
  exact hgoes.after ((State.Quietly.emitAll s (quiet_outputEntries q)).trans (.emit _ hentry))

/-! ### Passes -/

/-- A pass whose turn has come compiles the folders of the session. -/
theorem Sound.runJob (hσ : σ.Batch) (h : Sound σ (some t) s v) (hasks : σ.asked[t]? = some request)
    {q : Session} (hq : σ.session = some q) {job : Job} (hjob : request.job? = some job)
    (hpass : request.isPass) (hturn : v.turns.owner = some t) (hfresh : Unbegun v.account t) :
    Reaches σ t s { v.account with base := some (t, v.ledger) } (s.runJob t job) := by
  have hsession : s.session = some { q with lock := v.turns, ledger := v.ledger } := by
    rw [h.session, hq]
    rfl
  have hrun : s.runJob t job =
      s.oneShotPass t { q with lock := v.turns, ledger := v.ledger } := by
    have hmode := hσ.mode q hq
    cases request <;> cases hpass <;> cases hjob <;>
      simp [State.runJob, State.savePass, State.compilePass, hsession, hmode]
  have hopened := h.opens hturn
  simp only [hrun, State.oneShotPass, hσ.runner q hq]
  split
  · next e _ =>
      refine hopened.endPass hasks hpass hturn (.error e) ?_
      intro answer q' base hr
      cases hr
  · next folders hfolders =>
      have hcompiled : q.compiledFolders = .ok ([] ++ folders) := hfolders
      refine goesOn hσ hasks _ s _ .pass false hopened ⟨?_, ?_, ?_⟩ (by simp) (by simp)
      · exact .pass hpass hq hcompiled hturn rfl .nil
      · exact fun x hx hxt => absurd hxt (hfresh.2 x hx)
      · exact fun ht => absurd ht hfresh.1

/-! ### Events -/

section Events

variable (hσ : σ.Batch) (h : Sound σ none s v) (hasks : σ.asked[t]? = some request)

include hσ h hasks

theorem Sound.lands_compileTurn {job : Job} (htask : s.tasks[t]? = some (.compileTurn job))
    (hjob : request.job? = some job) (hpass : request.isPass) (hfresh : Unbegun v.account t)
    (he : e.task? = some t) : Lands σ s v e := by
  cases e <;> cases he
  case proceed =>
    cases hq : σ.session with
    | none =>
        have hsession : s.session = none := by rw [h.session, hq]; rfl
        refine h.ignores ⟨?_, rfl, fun _ => rfl, rfl, ?_⟩ rfl
        · simp [State.step, State.proceed, htask, hsession]
        · simp [State.opening?, htask, hsession]
    | some q =>
        have hsession : s.session = some { q with lock := v.turns, ledger := v.ledger } := by
          rw [h.session, hq]
          rfl
        by_cases hturn : v.turns.owner = some t
        · have hstep : s.step (.proceed t) = s.runJob t job := by
            simp [State.step, State.proceed, htask, hsession, hturn]
          have hopening : s.opening? (.proceed t) = some (t, v.ledger) := by
            simp [State.opening?, htask, hsession, hturn]
          have hreaches := (h.acting_of_idle htask rfl).runJob hσ hasks hq hjob hpass hturn hfresh
          refine hreaches.lands hstep rfl ?_
          simp [Account.record_of_task (e := .proceed t) rfl, hopening, State.ending?,
            State.abandoned?]
        · refine h.ignores ⟨?_, rfl, fun _ => rfl, rfl, ?_⟩ rfl
          · simp [State.step, State.proceed, htask, hsession, hturn]
          · simp [State.opening?, htask, hsession, hturn]
  all_goals exact h.ignores (State.ignores_of_not_awaits htask rfl rfl) rfl

/-- A task that waits for the lock of its runner begins with its folders once it has the lock. -/
theorem Sound.lands_lockTurn {task : Task} {stage : BatchStage} {folders : List Path}
    (htask : s.tasks[t]? = some task) (hidle : task.process? = none)
    (hahead : Ahead σ v t request stage folders) (hopening : s.opening? (.proceed t) = none)
    (hstep : s.step (.proceed t) =
      if v.lock.owner = some t then s.runFolders t 0 stage true folders else s) :
    Lands σ s v (.proceed t) := by
  by_cases howner : v.lock.owner = some t
  · rw [if_pos howner] at hstep
    have hreaches := goesOn hσ hasks folders s v stage true (h.acting_of_idle htask hidle) hahead
      (fun _ => howner) fun _ _ => rfl
    refine hreaches.lands hstep rfl ?_
    simp [Account.record_of_task (e := .proceed t) rfl, State.ending?, State.abandoned?, hopening]
  · rw [if_neg howner] at hstep
    exact h.ignores ⟨hstep, rfl, fun _ => rfl, rfl, hopening⟩ rfl

theorem Sound.lands_emptyTurn (htask : s.tasks[t]? = some (.emptyTurn 0))
    (hrequest : request = .runAll 0 []) (hfresh : Unbegun v.account t) (he : e.task? = some t) :
    Lands σ s v e := by
  cases e <;> cases he
  case proceed =>
    have hahead : Ahead σ v t request (.all []) [] := by
      rw [hrequest]
      exact ⟨.all [] [], fun x _ _ => Nat.zero_le _, fun ht => absurd ht hfresh.1⟩
    refine h.lands_lockTurn hσ hasks htask rfl hahead (by simp [State.opening?, htask]) ?_
    simp [State.step, State.proceed, htask, h.runners]
  all_goals exact h.ignores (State.ignores_of_not_awaits htask rfl rfl) rfl

section Works

variable (hrunner : w.runner = 0) (hahead : Ahead σ v t request w.stage (w.folder :: w.rest))

include hrunner hahead

theorem Sound.lands_turn (htask : s.tasks[t]? = some (.runnerTurn w)) (he : e.task? = some t) :
    Lands σ s v e := by
  cases e <;> cases he
  case proceed =>
    refine h.lands_lockTurn hσ hasks htask rfl hahead (by simp [State.opening?, htask]) ?_
    simp [State.step, State.proceed, htask, h.runners, hrunner]
  all_goals exact h.ignores (State.ignores_of_not_awaits htask rfl rfl) rfl

variable (howner : v.lock.owner = some t) (hbegun : t ∈ v.account.begun)

include howner

/-- A failure to create a process is one of the operating system, a timeout, or comes up again. -/
theorem Sound.lands_launchFailed (htask : s.tasks[t]? = some (.runnerLaunching w)) {error : Fault}
    (hevent : .launched t (.error error) ∈ σ.events) :
    Lands σ s v (.launched t (.error error)) := by
  have hkind : (∃ os, error = .os os) ∨ error = .compileTimeout ∨ Refused σ t error := by
    by_cases hos : ∃ os, error = .os os
    · exact .inl hos
    · by_cases htimeout : error = .compileTimeout
      · exact .inr (.inl htimeout)
      · exact .inr (.inr ⟨fun os heq => hos ⟨os, heq⟩, htimeout, .inl hevent⟩)
  have hreaches := (h.acting_of_idle htask rfl).invocationFails hσ hasks hrunner howner hahead
    v.account.written hkind
  have hstep : s.step (.launched t (.error error)) = s.compileFailed t w error := by
    simp [State.step, htask, State.oneShotLaunched]
  refine hreaches.lands hstep rfl ?_
  simp [Account.record_of_task (e := .launched t _) rfl, State.ending?, State.abandoned?,
    State.opening?, htask]

include hbegun

omit hσ in
theorem Sound.lands_launched (htask : s.tasks[t]? = some (.runnerLaunching w)) :
    Lands σ s v (.launched t (.ok ())) := by
  have hstands : Stands σ v t request (.running s.processes.length w) :=
    .works (.running _) hrunner hahead fun _ => ⟨howner, hbegun⟩
  have hstep : ∃ q, s.step (.launched t (.ok ())) =
      { s with processes := s.processes ++ [q] }.setTask t (.running s.processes.length w) := by
    simp only [State.step, htask, State.oneShotLaunched, h.runners, hrunner, List.getElem?_cons_zero]
    exact ⟨_, rfl⟩
  obtain ⟨q, hstep⟩ := hstep
  have hcreates := h.retask htask hasks hstands (s.processes ++ [q]) (by simp) ?_
    (by rintro _ ⟨⟩) ?_
  · rw [← hstep] at hcreates
    refine hcreates.lands (.of_trace_eq (by rw [hstep]; rfl)) ?_
    simp [Account.record_of_task (e := .launched t _) rfl, State.ending?, State.abandoned?,
      State.opening?]
  · intro p hp
    by_cases hlt : p < s.processes.length
    · exact .inl (by rwa [State.isAlive, List.getElem?_append_left hlt] at hp)
    · rcases Nat.eq_or_lt_of_not_lt hlt with rfl | hgt
      · exact .inr rfl
      · rw [State.isAlive, List.getElem?_eq_none (by simpa using Nat.succ_le_of_lt hgt)] at hp
        cases hp
  · rintro p ⟨⟩
    simp

theorem Sound.lands_launching (htask : s.tasks[t]? = some (.runnerLaunching w))
    (he : e.task? = some t) (hevent : e ∈ σ.events) : Lands σ s v e := by
  cases e <;> cases he
  case launched result =>
    cases result with
    | ok _ => exact h.lands_launched hasks hrunner hahead howner hbegun htask
    | error error => exact h.lands_launchFailed hσ hasks hrunner hahead howner htask hevent
  all_goals exact h.ignores (State.ignores_of_not_awaits htask rfl rfl) rfl

theorem Sound.lands_running {p : ProcessId} (htask : s.tasks[t]? = some (.running p w))
    (he : e.task? = some t) : Lands σ s v e := by
  cases e <;> cases he
  case exitSeen =>
    by_cases halive : s.isAlive p
    · refine h.ignores ⟨?_, rfl, ?_, rfl, rfl⟩ rfl <;>
        simp [State.step, State.exitSeen, State.ending?, htask, halive]
    · have hq := List.getElem?_eq_getElem (h.created t _ p htask rfl)
      have hacts := h.acting htask (by rintro p' ⟨⟩ hp; exact absurd hp halive)
      have hreaches := hacts.invocationExits hσ hasks hrunner howner hbegun hahead hq
      have hstep : s.step (.exitSeen t) = s.oneShotExited t p w := by
        simp [State.step, State.exitSeen, htask, halive]
      refine hreaches.lands hstep rfl ?_
      simp [Account.record_of_task (e := .exitSeen t) rfl, State.ending?, State.abandoned?,
        State.opening?, htask, halive]
  case timeout =>
    have hstands : Stands σ v t request (.runnerReaping p w) :=
      .works (.reaping _) hrunner hahead fun _ => ⟨howner, hbegun⟩
    have hstep : s.step (.timeout t) = s.oneShotTimeout t p w := by
      simp [State.step, State.timeout, htask]
    have hwaits := (h.emit (.signal p .kill)).retask htask hasks hstands s.processes
      (Nat.le_refl _) (fun _ => .inl) (fun _ hp => hp)
      (by rintro p' ⟨⟩; exact h.created t _ p htask rfl)
    have hsound : Sound σ none (s.step (.timeout t)) v := by rwa [hstep]
    refine hsound.lands ?_ ?_
    · rw [hstep]
      exact (State.Quietly.emit s rfl).trans (.of_trace_eq rfl)
    · simp [Account.record_of_task (e := .timeout t) rfl, State.ending?, State.abandoned?,
        State.opening?]
  case waitFailed error =>
    have hacts := (h.abandons p).acting htask (by rintro p' ⟨⟩ _; simp)
    have hspares :=
      Spares.of_account σ t v { v.account with abandoned := v.account.abandoned ++ [p] } rfl rfl rfl
    have hreaches := hacts.invocationFails hσ hasks hrunner howner (hspares.ahead hasks hahead)
      v.account.written (.inl ⟨error, rfl⟩)
    have hstep : s.step (.waitFailed t error) = s.compileFailed t w (.os error) := by
      simp [State.step, htask]
    refine hreaches.lands hstep rfl ?_
    simp [Account.record_of_task (e := .waitFailed t error) rfl, State.ending?, State.abandoned?,
      State.opening?, htask]
  all_goals exact h.ignores (State.ignores_of_not_awaits htask rfl rfl) rfl

omit hbegun in
theorem Sound.lands_reaping {p : ProcessId} (htask : s.tasks[t]? = some (.runnerReaping p w))
    (he : e.task? = some t) : Lands σ s v e := by
  cases e <;> cases he
  case exitSeen =>
    by_cases halive : s.isAlive p
    · refine h.ignores ⟨?_, rfl, ?_, rfl, rfl⟩ rfl <;>
        simp [State.step, State.exitSeen, State.ending?, htask, halive]
    · have hacts := h.acting htask (by rintro p' ⟨⟩ hp; exact absurd hp halive)
      have hreaches := hacts.invocationFails hσ hasks hrunner howner hahead v.account.written
        (.inr (.inl rfl))
      have hstep : s.step (.exitSeen t) = s.compileFailed t w .compileTimeout := by
        simp [State.step, State.exitSeen, htask, halive]
      refine hreaches.lands hstep rfl ?_
      simp [Account.record_of_task (e := .exitSeen t) rfl, State.ending?, State.abandoned?,
        State.opening?, htask, halive]
  all_goals exact h.ignores (State.ignores_of_not_awaits htask rfl rfl) rfl

end Works

end Events

/-- An event that concerns a task. -/
theorem Sound.lands_task (hσ : σ.Batch) (h : Sound σ none s v) (he : e.task? = some t)
    (hevent : e ∈ σ.events) : Lands σ s v e := by
  have hwritten : v.account.writtenAfter σ.settings.reportPath s e = v.account.written := by
    cases e <;> first | rfl | cases he
  cases htask : s.tasks[t]? with
  | none => exact h.ignores (State.ignores_of_none htask he) hwritten
  | some task =>
      obtain ⟨request, hasks, hstands⟩ := h.stands t task nofun htask
      have hover {r : Except Fault Answer} (htask : s.tasks[t]? = some (.finished r)) :
          Lands σ s v e :=
        h.ignores (State.ignores_of_not_awaits htask he (by cases e <;> rfl)) hwritten
      cases hstands with
      | compileTurn hjob hpass hfresh =>
          exact h.lands_compileTurn hσ hasks htask hjob hpass hfresh he
      | emptyTurn hfresh => exact h.lands_emptyTurn hσ hasks htask rfl hfresh he
      | works hworks hrunner hahead hholds =>
          cases hworks with
          | turn => exact h.lands_turn hσ hasks hrunner hahead htask he
          | launching =>
              obtain ⟨howner, hbegun⟩ := hholds rfl
              exact h.lands_launching hσ hasks hrunner hahead howner hbegun htask he hevent
          | running p =>
              obtain ⟨howner, hbegun⟩ := hholds rfl
              exact h.lands_running hσ hasks hrunner hahead howner hbegun htask he
          | reaping p =>
              exact h.lands_reaping hσ hasks hrunner hahead (hholds rfl).1 htask he
      | report folder => exact hover htask
      | reports folders => exact hover htask
      | refused _ _ => exact hover htask
      | passed _ r _ => exact hover htask

/-! ### Requests -/

/-- A pass is asked for: it begins, if it is the only one. -/
theorem Sound.beginJob (hσ : σ.Batch) (h : Sound σ (some t) s v)
    (hasks : σ.asked[t]? = some request) {job : Job} (hjob : request.job? = some job)
    (hpass : request.isPass) (hfresh : Unbegun v.account t) :
    Reaches σ t s
      { v.account with base := (s.session.bind fun q =>
          if (q.lock.acquire t).owner = some t then some (t, q.ledger) else none).or v.account.base }
      (s.beginJob t job) := by
  have hqueued := h.acquireTurn
  have hwaits := hqueued.reaches hasks (.compileTurn hjob hpass hfresh) rfl
  have htrace : (s.modifySession fun q => { q with lock := q.lock.acquire t }).trace = s.trace := rfl
  simp only [State.beginJob]
  generalize (s.modifySession fun q => { q with lock := q.lock.acquire t }) = s1 at *
  cases hq : σ.session with
  | none =>
      have hnone : s.session = none ∧ s1.session = none := by
        rw [h.session, hqueued.session, hq]
        exact ⟨rfl, rfl⟩
      simp only [hnone, Option.bind_none, Option.none_or, reduceCtorEq, if_false]
      exact .of_trace_eq hwaits htrace
  | some q =>
      have hsome : s.session = some { q with lock := v.turns, ledger := v.ledger } ∧
          s1.session = some { q with lock := v.turns.acquire t, ledger := v.ledger } := by
        rw [h.session, hqueued.session, hq]
        exact ⟨rfl, rfl⟩
      simp only [hsome, Option.bind_some]
      split
      · next hturn =>
          exact .of_trace_eq (hqueued.runJob hσ hasks hq hjob hpass hturn hfresh) htrace
      · exact .of_trace_eq hwaits htrace

/-- Folders are to be compiled in a row: this begins now, if nobody has the lock. -/
theorem Sound.lands_runAll (hσ : σ.Batch) (h : Sound σ none s v) {folders : List Path}
    (hasks : σ.asked[s.tasks.length]? = some (.runAll 0 folders)) :
    Lands σ s v (.call (.runAll 0 folders)) := by
  have hfresh : Unbegun v.account s.tasks.length := h.fresh _ (Nat.le_refl _)
  have hqueued := (h.addTask (.ok .nothing)).acquire
  have hahead : Ahead σ
      { v with
        lock := v.lock.acquire s.tasks.length
        account := { v.account with calls := v.account.calls + 1 } }
      s.tasks.length (.runAll 0 folders) (.all []) folders :=
    ⟨.all [] folders, fun x hx hxt => absurd hxt (hfresh.2 x hx), fun ht => absurd ht hfresh.1⟩
  have hreaches : Reaches σ s.tasks.length s { v.account with calls := v.account.calls + 1 }
      (s.step (.call (.runAll 0 folders))) := by
    simp only [State.step, State.call]
    split
    · next howner =>
        rw [hqueued.runners] at howner
        have hgoes := goesOn hσ hasks folders _ _ (.all []) true hqueued hahead (fun _ => howner)
          fun _ _ => rfl
        exact .of_trace_eq hgoes rfl
    · cases folders with
      | nil => exact .of_trace_eq (hqueued.reaches hasks (.emptyTurn hfresh) rfl) rfl
      | cons folder rest =>
          exact .of_trace_eq (hqueued.reaches hasks (.works .turn rfl hahead (by rintro ⟨⟩)) rfl) rfl
  refine hreaches.lands rfl rfl ?_
  rw [Account.record_of_call]
  rfl

/-- A request comes. -/
theorem Sound.lands_call (hσ : σ.Batch) (h : Sound σ none s v)
    (hasks : σ.asked[s.tasks.length]? = some request) (hrequest : request.ofRunner) :
    Lands σ s v (.call request) := by
  have hfresh : Unbegun v.account s.tasks.length := h.fresh _ (Nat.le_refl _)
  have hadded := h.addTask (.ok .nothing)
  unfold Request.ofRunner at hrequest
  split at hrequest
  · next folder =>
      have hahead : Ahead σ { v with account := { v.account with calls := v.account.calls + 1 } }
          s.tasks.length (.runFolder 0 folder) .single [folder] :=
        ⟨.single folder, fun x hx hxt => absurd hxt (hfresh.2 x hx), fun ht => absurd ht hfresh.1⟩
      have hgoes := goesOn hσ hasks [folder] _ _ .single false hadded hahead nofun nofun
      refine Reaches.lands (.of_trace_eq hgoes rfl) rfl rfl ?_
      rw [Account.record_of_call]
      rfl
  · next folders => exact h.lands_runAll hσ hasks
  · refine Reaches.lands (.of_trace_eq (hadded.beginJob hσ hasks rfl rfl hfresh) rfl) rfl rfl ?_
    rw [Account.record_of_call]
    rfl
  · refine Reaches.lands (.of_trace_eq (hadded.beginJob hσ hasks rfl rfl hfresh) rfl) rfl rfl ?_
    rw [Account.record_of_call]
    rfl
  · cases hrequest

/-- An event that concerns a process or a file. -/
theorem Sound.lands_aside (h : Sound σ none s v) (he : e.task? = none) (hcall : e.request? = none) :
    Lands σ s v e := by
  have hlands {s' : State} {v' : Shared} (hs' : Sound σ none s' v') (hstep : s.step e = s')
      (htrace : s'.trace = s.trace) (haccount : v'.account =
        { v.account with written := v.account.writtenAfter σ.settings.reportPath s e }) :
      Lands σ s v e := by
    subst hstep
    exact hs'.lands (.of_trace_eq htrace) (haccount.trans (Account.record_of_aside he hcall).symm)
  cases e with
  | read p name => exact hlands h (State.read_of_unsupervised h.unsupervised p name) rfl rfl
  | notice p => exact hlands h (State.noticeExit_of_unsupervised h.unsupervised p) rfl rfl
  | output p name bytes =>
      by_cases halive : s.isAlive p
      · refine hlands (h.modifyProcess p ?_) (if_pos halive) rfl rfl
        cases name <;> exact fun _ => id
      · exact hlands h (if_neg halive) rfl rfl
  | exit p code =>
      by_cases halive : s.isAlive p
      · refine hlands (h.modifyProcess p ?_) (if_pos halive) rfl rfl
        exact fun _ hq => absurd hq Bool.false_ne_true
      · exact hlands h (if_neg halive) rfl rfl
  | breakOutput p name =>
      refine hlands (h.modifyProcess p ?_) rfl rfl rfl
      cases name <;> exact fun _ => id
  | writeFile path bytes =>
      cases hwrite : s.files.write path bytes with
      | error e =>
          refine hlands h (by simp [State.step, hwrite]) rfl ?_
          simp [Account.writtenAfter, hwrite, Except.isOk, Except.toBool]
      | ok files =>
          refine hlands (h.writes fun hbegun => (h.holds hbegun).write hwrite)
            (by simp [State.step, hwrite]) rfl ?_
          simp [Account.writtenAfter, hwrite, Except.isOk, Except.toBool]
  | call request => cases hcall
  | _ => cases he

end Lands

end Datapack.Machine
