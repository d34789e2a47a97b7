import Datapack.Proofs.Machine.RunnerEvents

/-! A runner of which any number of compiles is asked at the same time, by itself and for the passes
of a session. There is never more than one process, and every folder gets the report that its own
invocation has written. -/

namespace Datapack.Machine

open Diagnostic Text

/-! ### Runs -/

/-- Nothing but a request adds to the number of requests. -/
theorem Account.calls_after (a : Account) (path : Path) (s : State) (e : Event) :
    (a.after path s e).calls = a.calls + e.request?.toList.length := by
  have hsee (actor : Option TaskId) (es : List Effect) (a : Account) :
      (es.foldl (see actor) a).calls = a.calls := by
    induction es generalizing a with
    | nil => rfl
    | cons e es ih =>
        rw [List.foldl_cons, ih]
        cases e <;> rfl
  exact hsee _ _ _

section

variable {σ : Scene} {s : State} {v : Shared} {t : TaskId} {request : Request} {task : Task}
  {w : Work}

theorem Sound.step (hσ : σ.Batch) (h : Sound σ none s v) {e : Event} (he : e.ofRunner)
    (hevent : e ∈ σ.events)
    (hasks : ∀ request, e.request? = some request → σ.asked[s.tasks.length]? = some request) :
    Lands σ s v e := by
  cases hcall : e.request? with
  | some request =>
      cases e <;> cases hcall
      exact h.lands_call hσ (hasks request rfl) he
  | none =>
      cases htask : e.task? with
      | some t => exact h.lands_task hσ htask hevent
      | none => exact h.lands_aside htask hcall

/-- However a run goes on, everything stands where it should. -/
theorem Sound.run (hσ : σ.Batch) (h : Sound σ none s v) {events : List Event}
    (hrunner : ∀ e ∈ events, e.ofRunner) (hevents : ∀ e ∈ events, e ∈ σ.events)
    (hasks : σ.asked.drop s.tasks.length = requests events) :
    ∃ v', Sound σ none (s.run events) v' ∧
      v'.account = s.account σ.settings.reportPath v.account events := by
  induction events generalizing s v with
  | nil => exact ⟨v, h, rfl⟩
  | cons e events ih =>
      rw [List.forall_mem_cons] at hrunner hevents
      rw [requests_cons] at hasks
      have hfirst : ∀ request, e.request? = some request →
          σ.asked[s.tasks.length]? = some request := by
        intro request hcall
        rw [hcall] at hasks
        have hhead := congrArg (·[0]?) hasks
        simpa using hhead
      obtain ⟨v', hv', haccount⟩ := h.step hσ hrunner.1 hevents.1 hfirst
      have hlength : (s.step e).tasks.length = s.tasks.length + e.request?.toList.length := by
        rw [hv'.calls, haccount, Account.calls_after, h.calls]
      have hrest : σ.asked.drop (s.step e).tasks.length = requests events := by
        rw [hlength, ← List.drop_drop, hasks, List.drop_left]
      rw [State.account, ← haccount]
      exact ih hv' hrunner.2 hevents.2 hrest

/-! ### What follows -/

theorem Stands.owner_of_process (h : Stands σ v t request task) {p : ProcessId}
    (hp : task.process? = some p) : v.lock.owner = some t := by
  cases h with
  | works hworks _ _ hholds =>
      refine (hholds ?_).1
      cases hworks <;> first | rfl | cases hp
  | _ => cases hp

/-- Processes that are alive are waited for by the one task that has the lock. -/
theorem Sound.alive_unique (h : Sound σ none s v) {p p' : ProcessId} (hp : s.isAlive p)
    (hp' : s.isAlive p') (hkept : p ∉ v.account.abandoned) (hkept' : p' ∉ v.account.abandoned) :
    p = p' := by
  obtain ⟨t, task, _, htask, hwaits⟩ := (h.attended p hp).resolve_left hkept
  obtain ⟨t', task', _, htask', hwaits'⟩ := (h.attended p' hp').resolve_left hkept'
  obtain ⟨request, _, hstands⟩ := h.stands t task nofun htask
  obtain ⟨request', _, hstands'⟩ := h.stands t' task' nofun htask'
  have hsame : some t = some t' :=
    (hstands.owner_of_process hwaits).symm.trans (hstands'.owner_of_process hwaits')
  cases hsame
  obtain rfl : task = task' := Option.some.inj (htask.symm.trans htask')
  exact Option.some.inj (hwaits.symm.trans hwaits')

/-- Where the task of a request stands. -/
theorem Sound.stands_of (h : Sound σ none s v) (hasks : σ.asked[t]? = some request)
    (htask : s.tasks[t]? = some task) : Stands σ v t request task := by
  obtain ⟨request', hasks', hstands⟩ := h.stands t task nofun htask
  obtain rfl : request' = request := Option.some.inj (hasks'.symm.trans hasks)
  exact hstands

theorem Stands.ahead (h : Stands σ v t request task) (hworks : Works w task) :
    Ahead σ v t request w.stage (w.folder :: w.rest) := by
  cases h with
  | works hworks' _ hahead _ =>
      cases hworks <;> cases hworks' <;> exact hahead
  | _ => cases hworks

theorem Midway.stage_of_pass {a : Account} {turn : Option TaskId} {ledger : Ledger}
    {stage : BatchStage} {rest : List Path}
    (h : Midway σ a turn ledger t request stage rest) (hpass : request.isPass) : stage = .pass := by
  cases h with
  | single | all => cases hpass
  | pass => rfl

end

/-- A runner, and perhaps the session that it belongs to, of which nothing was asked yet. -/
def State.unasked (settings : Settings) (session : Option Session) (files : FileTree) : State :=
  { runners := [⟨settings, {}⟩], session, files }

theorem sound_unasked (σ : Scene) (files : FileTree) :
    ∃ v, Sound σ none (State.unasked σ.settings σ.session files) v ∧ v.account = {} := by
  refine ⟨{
    turns := (σ.session.map (·.lock)).getD {}
    ledger := (σ.session.map (·.ledger)).getD {} }, ?_, rfl⟩
  exact {
    calls := rfl
    present := nofun
    unsupervised := rfl
    runners := rfl
    session := by cases hq : σ.session <;> simp [State.unasked]
    stands := fun t task _ htask => by simp [State.unasked] at htask
    fresh := fun t _ => ⟨List.not_mem_nil, fun x hx => absurd hx List.not_mem_nil⟩
    attended := fun p hp => by simp [State.unasked, State.isAlive] at hp
    created := fun t task p htask => by simp [State.unasked] at htask
    holds := fun hne => absurd rfl hne
    together := fun t request _ => by
      have hnone : rivals σ.asked request [] = [] := by
        unfold rivals
        split <;> rfl
      rw [hnone]
      exact together_nil t }

/-- Whatever is asked of a runner and of its session at the same time, and in whatever order things
happen: at most one process is alive, apart from those that could not be waited for. The invocations
of one request come in one piece, those of a pass as far as other passes are concerned. A folder's
answer is the report that its own invocation has written, and only failures that come up again are
raised. A task whose invocation has ended has gone on. When a pass compiles a folder, the reports of
the folders before it were applied, and in the end all of them were. -/
theorem compiles_in_turn_with_own_reports (settings : Settings) (session : Option Session)
    (files : FileTree) (events : List Event)
    (hsession : ∀ q, session = some q → q.settings.mode = .batch ∧ q.runner = some 0)
    (hevents : ∀ e ∈ events, e.ofRunner) :
    let σ : Scene := ⟨settings, session, requests events, events⟩
    let start := State.unasked settings session files
    let s := start.run events
    let a := start.account settings.reportPath {} events
    (∀ p p', s.isAlive p → s.isAlive p' → p ∉ a.abandoned → p' ∉ a.abandoned → p = p') ∧
    (∀ t request, σ.asked[t]? = some request → Together t (rivals σ.asked request a.begun)) ∧
    (∀ t folder r, σ.asked[t]? = some (.runFolder 0 folder) → s.tasks[t]? = some (.finished r) →
      r = .ok (.report (a.report t 0)) ∨ ∃ e, r = .error e ∧ Refused σ t e) ∧
    (∀ t folders r, σ.asked[t]? = some (.runAll 0 folders) → s.tasks[t]? = some (.finished r) →
      r = .ok (.reports (a.reports t 0 folders)) ∨ ∃ e, r = .error e ∧ Refused σ t e) ∧
    (∀ t task w, s.tasks[t]? = some task → Works w task →
      ∀ x ∈ a.ended, x.task = t → w.rest.length < x.left) ∧
    ∀ t request q q', σ.asked[t]? = some request → request.isPass → session = some q →
      s.session = some q' →
      (∀ task w, s.tasks[t]? = some task → Works w task →
        Midway σ a q'.lock.owner q'.ledger t request .pass (w.folder :: w.rest)) ∧
      ∀ answer base, s.tasks[t]? = some (.finished (.ok answer)) → a.base = some (t, base) →
        ∃ folders, q.compiledFolders = .ok folders ∧
          Applied q base (a.reports t 0 folders) q'.ledger := by
  intro σ start s a
  have hσ : σ.Batch := ⟨fun q hq => (hsession q hq).1, fun q hq => (hsession q hq).2⟩
  obtain ⟨v₀, hstart, hnone⟩ := sound_unasked σ files
  obtain ⟨v, hv, haccount⟩ := hstart.run hσ hevents (fun _ => id) rfl
  have ha : v.account = a := by rw [haccount, hnone]
  rw [← ha]
  refine ⟨?_, hv.together, ?_, ?_, ?_, ?_⟩
  · exact fun p p' hp hp' hkept hkept' => hv.alive_unique hp hp' hkept hkept'
  · intro t folder r hasks htask
    cases hv.stands_of hasks htask with
    | report => exact .inl rfl
    | refused _ hrefused => exact .inr ⟨_, rfl, hrefused⟩
    | works hworks => cases hworks
    | passed hpass => cases hpass
  · intro t folders r hasks htask
    cases hv.stands_of hasks htask with
    | reports => exact .inl rfl
    | refused _ hrefused => exact .inr ⟨_, rfl, hrefused⟩
    | works hworks => cases hworks
    | passed hpass => cases hpass
  · intro t task w htask hworks x hx hxt
    obtain ⟨request, _, hstands⟩ := hv.stands t task nofun htask
    exact (hstands.ahead hworks).ended x hx hxt
  · intro t request q q' hasks hpass hq hq'
    obtain rfl : { q with lock := v.turns, ledger := v.ledger } = q' := by
      have hlast := hv.session.symm.trans hq'
      rw [show σ.session = some q from hq] at hlast
      exact Option.some.inj hlast
    refine ⟨?_, ?_⟩
    · intro task w htask hworks
      have hmidway := ((hv.stands_of hasks htask).ahead hworks).midway
      rwa [hmidway.stage_of_pass hpass] at hmidway
    · intro answer base htask hbase
      cases hv.stands_of hasks htask with
      | passed _ _ happlied => exact happlied answer q base rfl hq hbase
      | works hworks => cases hworks
      | report | reports => cases hpass

def crowdedSettings : Settings := { Settings.default with mode := .batch }

def crowdedSession : Session :=
  { settings := crowdedSettings, documents := .given [] [Path.ofString "/ws"],
    publisher := .accepting, runner := some 0 }

/-- Two folders in a row, a third one and a pass, asked for at the same time. The first folder gets a
report, the second takes too long, and no process can be created for the third. -/
def crowdedRun : List Event :=
  [.call (.runAll 0 [Path.ofString "/a", Path.ofString "/b"]), .call (.runFolder 0 (Path.ofString "/c")),
   .call .compile, .launched 0 (.ok ()),
   .writeFile crowdedSettings.reportPath (encodeUtf8 "\x7b\"errors\":[]\x7d"), .exit 0 0, .exitSeen 0,
   .launched 0 (.ok ()), .timeout 0, .exit 1 (-9), .exitSeen 0, .proceed 1,
   .launched 1 (.error (.os .notFound)), .proceed 2, .launched 2 (.ok ())]

theorem crowdedRun_own_reports :
    let start := State.unasked crowdedSettings (some crowdedSession) {}
    let s := start.run crowdedRun
    let a := start.account crowdedSettings.reportPath {} crowdedRun
    (∀ q, some crowdedSession = some q → q.settings.mode = .batch ∧ q.runner = some 0) ∧
    (∀ e ∈ crowdedRun, e.ofRunner) ∧ a.begun = [0, 0, 1, 2] ∧ s.isAlive 2 ∧
    (∀ p, s.isAlive p → p = 2) ∧
    (a.report 0 1).isSome ∧ a.report 0 0 = none ∧
    s.tasks[0]? = some (.finished (.ok (.reports
      [(Path.ofString "/a", a.report 0 1), (Path.ofString "/b", none)]))) ∧
    s.tasks[1]? = some (.finished (.ok (.report none))) := by
  intro start s a
  have hsession : ∀ q, some crowdedSession = some q → q.settings.mode = .batch ∧ q.runner = some 0 := by
    rintro q ⟨⟩
    exact ⟨rfl, rfl⟩
  have hevents : ∀ e ∈ crowdedRun, e.ofRunner := by decide +kernel
  have hbegun : a.begun = [0, 0, 1, 2] ∧ s.isAlive 2 ∧ a.abandoned = [] ∧
      ((a.report 0 1).isSome ∧ (a.report 0 0).isNone ∧ (a.report 1 0).isNone) ∧
      (s.tasks.map fun task => task.isFinished && task.isSettled) = [true, true, false] := by
    decide +kernel
  obtain ⟨hbegun, halive, habandoned, ⟨hsome, hnone, hnone'⟩, hfinished⟩ := hbegun
  rw [Option.isNone_iff_eq_none] at hnone hnone'
  obtain ⟨halone, _, hsingle, hall, _⟩ :=
    compiles_in_turn_with_own_reports crowdedSettings (some crowdedSession) {} crowdedRun hsession
      hevents
  -- The first two tasks have finished, and without a failure.
  have hanswers : ∀ t < 2, ∃ answer, s.tasks[t]? = some (.finished (.ok answer)) := by
    intro t ht
    have htrue : (s.tasks.map fun task => task.isFinished && task.isSettled)[t]? = some true := by
      rw [hfinished]
      match t, ht with
      | 0, _ | 1, _ => rfl
    rw [List.getElem?_map] at htrue
    obtain ⟨task, htask, hsettled⟩ := Option.map_eq_some_iff.mp htrue
    match task, hsettled with
    | .finished (.ok answer), _ => exact ⟨answer, htask⟩
  refine ⟨hsession, hevents, hbegun, halive, ?_, hsome, hnone, ?_, ?_⟩
  · have hkept (p : ProcessId) : p ∉ a.abandoned := by
      rw [habandoned]
      exact List.not_mem_nil
    exact fun p hp => halone p 2 hp halive (hkept p) (hkept 2)
  · obtain ⟨answer, htask⟩ := hanswers 0 (by decide)
    rcases hall 0 _ _ rfl htask with hanswer | ⟨_, herror, _⟩
    · rw [htask, hanswer, ← hnone]
      rfl
    · cases herror
  · obtain ⟨answer, htask⟩ := hanswers 1 (by decide)
    rcases hsingle 1 _ _ rfl htask with hanswer | ⟨_, herror, _⟩
    · rw [htask, hanswer, ← hnone']
    · cases herror

/-- A launch that fails otherwise than by the operating system is raised, and a process that could
not be waited for may live on beside the next one. -/
theorem refused_launch_raised :
    let start := State.unasked crowdedSettings none {}
    let s := start.run [.call (.runFolder 0 (Path.ofString "/a")), .launched 0 (.error .spawnFailed)]
    let s' := start.run [.call (.runFolder 0 (Path.ofString "/a")),
      .call (.runFolder 0 (Path.ofString "/b")), .launched 0 (.ok ()), .waitFailed 0 .other,
      .proceed 1, .launched 1 (.ok ())]
    s.tasks[0]? = some (.finished (.error .spawnFailed)) ∧ s'.isAlive 0 ∧ s'.isAlive 1 := by
  refine ⟨rfl, ?_⟩
  decide +kernel

end Datapack.Machine
