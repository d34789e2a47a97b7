import Datapack.Proofs.FileTree
import Datapack.Proofs.Machine.CommandBlocks

/-! One-shot compiles that are asked for at the same time. All of them leave their report in one
file, so what a task may rely on is the order of what it does under the lock of its runner: it
removes the file, launches a process, waits, and reads. -/

namespace Datapack

def Effect.isLaunch : Effect → Bool
  | launch _ => true
  | _ => false

namespace Machine

open Diagnostic Text

/-- Effects that launch nothing. -/
def Quiet (es : List Effect) : Prop := ∀ e ∈ es, e.isLaunch = false

theorem Quiet.append {es es' : List Effect} (h : Quiet es) (h' : Quiet es') :
    Quiet (es ++ es') := by
  intro e he
  rcases List.mem_append.mp he with he | he
  · exact h e he
  · exact h' e he

theorem Quiet.of_tells {es : List Effect} (h : ∀ e ∈ es, e.tells) : Quiet es := by
  intro e he
  have htells := h e he
  cases e <;> first | rfl | cases htells

/-! ### Accounts -/

/-- How the invocation of a compiler for a folder ended, after its process was asked for. -/
structure Invocation where
  task : TaskId
  /-- How many folders its task had still to compile. -/
  left : Nat
  /-- Whether its process was created and exited in time. -/
  exited : Bool
  /-- What was last written to the report's place since its process was asked for. -/
  written : Option Bytes

/-- The report of an invocation: what it wrote, if its process exited and this can be decoded. -/
def Invocation.report (x : Invocation) : Option Report :=
  if x.exited then x.written.bind fun bytes => (Report.decode bytes).toOption else none

/-- What has happened to the invocations of a run. -/
structure Account where
  /-- How many requests have come. -/
  calls : Nat := 0
  /-- The tasks that asked for processes, in order. -/
  begun : List TaskId := []
  /-- The invocations that have ended, in order. -/
  ended : List Invocation := []
  /-- What was last written to the report's place since the last process was asked for. -/
  written : Option Bytes := none
  /-- The processes that could not be waited for. -/
  abandoned : List ProcessId := []
  /-- The pass that began last, and the diagnostics that it found. -/
  base : Option (TaskId × Ledger) := none

namespace State

/-- The invocation that an event ends. -/
def ending? (s : State) (written : Option Bytes) : Event → Option Invocation
  | .launched t (.error _) =>
    match s.tasks[t]? with
    | some (.runnerLaunching w) => some ⟨t, w.rest.length, false, written⟩
    | _ => none
  | .exitSeen t =>
    match s.tasks[t]? with
    | some (.running p w) => if s.isAlive p then none else some ⟨t, w.rest.length, true, written⟩
    | some (.runnerReaping p w) =>
      if s.isAlive p then none else some ⟨t, w.rest.length, false, written⟩
    | _ => none
  | .waitFailed t _ =>
    match s.tasks[t]? with
    | some (.running _ w) => some ⟨t, w.rest.length, false, written⟩
    | _ => none
  | _ => none

/-- The process that a task gives up at an event, since waiting for it fails. -/
def abandoned? (s : State) : Event → Option ProcessId
  | .waitFailed t _ =>
    match s.tasks[t]? with
    | some (.running p _) => some p
    | _ => none
  | _ => none

/-- The pass that begins at an event: one whose turn has come, or that is the only one. -/
def opening? (s : State) : Event → Option (TaskId × Ledger)
  | .call request =>
    if request.isPass then
      s.session.bind fun q =>
        if (q.lock.acquire s.tasks.length).owner = some s.tasks.length then
          some (s.tasks.length, q.ledger)
        else none
    else none
  | .proceed t =>
    match s.tasks[t]? with
    | some (.compileTurn _) =>
      s.session.bind fun q => if q.lock.owner = some t then some (t, q.ledger) else none
    | _ => none
  | _ => none

end State

namespace Account

/-- What is in the report's place after an event: a process may have written there. -/
def writtenAfter (a : Account) (path : Path) (s : State) : Event → Option Bytes
  | .writeFile p bytes =>
    if (s.files.write p bytes).isOk ∧ (s.files.place p).toOption = (s.files.place path).toOption then
      some bytes
    else a.written
  | _ => a.written

/-- What an event adds, before it launches anything. -/
def record (a : Account) (path : Path) (s : State) (e : Event) : Account :=
  { calls := a.calls + e.request?.toList.length
    begun := a.begun
    ended := a.ended ++ (s.ending? a.written e).toList
    written := a.writtenAfter path s e
    abandoned := a.abandoned ++ (s.abandoned? e).toList
    base := (s.opening? e).or a.base }

def launch (a : Account) (actor : Option TaskId) : Account :=
  { a with begun := a.begun ++ actor.toList, written := none }

def see (actor : Option TaskId) (a : Account) : Effect → Account
  | .launch _ => a.launch actor
  | _ => a

/-- What an event adds. -/
def after (a : Account) (path : Path) (s : State) (e : Event) : Account :=
  (s.effects e).foldl (see (s.actor? e)) (a.record path s e)

/-- The report that a task has got for a folder, by the number of folders after it. -/
def report (a : Account) (t : TaskId) (left : Nat) : Option Report :=
  ((a.ended.filter (·.task = t)).find? (·.left = left)).bind Invocation.report

/-- The reports that a task has got for folders in a row, `left` folders before the last. -/
def reports (a : Account) (t : TaskId) (left : Nat) : List Path → List (Path × Option Report)
  | [] => []
  | folder :: rest => (folder, a.report t (rest.length + left)) :: a.reports t left rest

end Account

/-- The account of a run, after what is known already. -/
def State.account (s : State) (path : Path) (a : Account) : List Event → Account
  | [] => a
  | e :: events => (s.step e).account path (a.after path s e) events

namespace Account

variable {a a' : Account} {t : TaskId} {n : Nat} {x : Invocation}

theorem foldl_see_of_quiet {actor : Option TaskId} {es : List Effect} (h : Quiet es) :
    es.foldl (see actor) a = a := by
  induction es with
  | nil => rfl
  | cons e es ih =>
      have hquiet := List.forall_mem_cons.mp h
      have hsame : a.see actor e = a := by
        have hfirst := hquiet.1
        cases e <;> first | rfl | cases hfirst
      rw [List.foldl_cons, hsame, ih hquiet.2]

theorem reports_concat (fs : List Path) (folder : Path) :
    a.reports t n (fs ++ [folder]) = a.reports t (n + 1) fs ++ [(folder, a.report t n)] := by
  induction fs with
  | nil => simp [reports]
  | cons f fs ih =>
      simp only [List.cons_append, reports, ih, List.length_append, List.length_singleton]
      rw [Nat.add_assoc, Nat.add_comm 1 n]

/-- The reports of a task are settled by its own invocations. -/
theorem reports_congr (h : a'.ended.filter (·.task = t) = a.ended.filter (·.task = t))
    (fs : List Path) : a'.reports t n fs = a.reports t n fs := by
  induction fs with
  | nil => rfl
  | cons f fs ih => rw [reports, reports, ih, report, report, h]

/-- An invocation of a later folder leaves the reports of the folders before it alone. -/
theorem reports_of_ended (h : a'.ended = a.ended ++ [x]) (hleft : x.left < n) (fs : List Path) :
    a'.reports t n fs = a.reports t n fs := by
  induction fs with
  | nil => rfl
  | cons f fs ih =>
      have hne : x.left ≠ fs.length + n := by omega
      have hreport : a'.report t (fs.length + n) = a.report t (fs.length + n) := by
        rw [report, report, h, List.filter_append, List.find?_append]
        have hnone : ([x].filter (·.task = t)).find? (·.left = fs.length + n) = none := by
          rw [List.find?_eq_none]
          intro y hy
          rw [List.mem_singleton.mp (List.mem_of_mem_filter hy)]
          simpa using hne
        rw [hnone, Option.or_none]
      rw [reports, reports, ih, hreport]

theorem report_eq_none (h : ∀ y ∈ a.ended, y.task = t → n < y.left) : a.report t n = none := by
  have hnone : (a.ended.filter (·.task = t)).find? (·.left = n) = none := by
    rw [List.find?_eq_none]
    intro y hy
    have hmem := List.mem_filter.mp hy
    have hlt := h y hmem.1 (by simpa using hmem.2)
    simpa using Nat.ne_of_gt hlt
  rw [report, hnone]
  rfl

/-- The report of the invocation that has just ended. -/
theorem report_of_ended (h : a'.ended = a.ended ++ [x])
    (hearlier : ∀ y ∈ a.ended, y.task = x.task → x.left < y.left) :
    a'.report x.task x.left = x.report := by
  have hnone : (a.ended.filter (·.task = x.task)).find? (·.left = x.left) = none := by
    rw [List.find?_eq_none]
    intro y hy
    have hmem := List.mem_filter.mp hy
    have hlt := hearlier y hmem.1 (by simpa using hmem.2)
    simpa using Nat.ne_of_gt hlt
  rw [report, h, List.filter_append, List.find?_append, hnone, Option.none_or]
  simp

end Account

/-! ### Tasks that come in one piece -/

/-- Between two occurrences of a task there is no other one. -/
def Together (t : TaskId) (l : List TaskId) : Prop :=
  ∀ before between after, l = before ++ t :: between ++ t :: after → ∀ t' ∈ between, t' = t

theorem together_nil (t : TaskId) : Together t [] := by
  intro before between after h
  simp at h

/-- A task that is added to the end was not there before, or was the last one. -/
theorem Together.concat {t t' : TaskId} {l : List TaskId} (h : Together t l)
    (hlast : t' = t → t ∈ l → l.getLast? = some t) : Together t (l ++ [t']) := by
  intro before between after heq
  rcases List.eq_nil_or_concat after with rfl | ⟨after, x, rfl⟩
  · obtain ⟨rfl, ht⟩ := List.append_inj' heq rfl
    have hlast := hlast (List.singleton_inj.mp ht) (by simp)
    rcases List.eq_nil_or_concat between with rfl | ⟨between, y, rfl⟩
    · simp
    · have hsplit : before ++ t :: between.concat y = before ++ t :: between ++ [y] := by simp
      rw [hsplit, List.getLast?_concat] at hlast
      obtain rfl := Option.some.inj hlast
      have hbetween := h before between [] hsplit
      intro z hz
      rw [List.concat_eq_append, List.mem_append, List.mem_singleton] at hz
      exact hz.elim (hbetween z) id
  · have hsplit : before ++ t :: between ++ t :: after.concat x =
        (before ++ t :: between ++ t :: after) ++ [x] := by simp
    exact h before between after (List.append_inj' (heq.trans hsplit) rfl).1

/-- The tasks that a request must not mix with: for a pass, those of other passes. -/
def rivals (asked : List Request) (request : Request) (begun : List TaskId) : List TaskId :=
  if request.isPass then begun.filter fun t => asked[t]?.any Request.isPass else begun

theorem mem_rivals {asked : List Request} {request : Request} {t : TaskId}
    (h : asked[t]? = some request) {begun : List TaskId} :
    t ∈ rivals asked request begun ↔ t ∈ begun := by
  unfold rivals
  split
  · next hpass => simp [h, hpass]
  · rfl

theorem rivals_concat {asked : List Request} {request : Request} {t : TaskId}
    (h : asked[t]? = some request) (other : Request) (begun : List TaskId) :
    rivals asked other (begun ++ [t]) =
      rivals asked other begun ++ if other.isPass ∧ request.isPass = false then [] else [t] := by
  unfold rivals
  cases hother : other.isPass with
  | false => simp
  | true => cases hpass : request.isPass <;> simp [h, hpass]

/-! ### What tasks rely on -/

/-- The diagnostics after the reports of folders were applied, in order. -/
inductive Applied (q : Session) (base : Ledger) : List (Path × Option Report) → Ledger → Prop where
  | nil : Applied q base [] base
  | concat {reports : List (Path × Option Report)} {ledger ledger' : Ledger} {files : FileTree}
      {folder : Path} {report : Option Report} {effects : List Effect}
      {grouped : Ordered (List Record)} (applied : Applied q base reports ledger)
      (entered : (Ledger.enterReport q.documents files q.publisher folder report).run ledger =
        (ledger', effects, .ok grouped)) :
      Applied q base (reports ++ [(folder, report)]) ledger'

/-- Where a run takes place: one runner, perhaps the session that it belongs to, all requests that
are made, and all events. -/
structure Scene where
  settings : Settings
  session : Option Session
  asked : List Request
  events : List Event

/-- What tasks have in common: the lock of the runner, that of the session with its diagnostics, and
what has happened to invocations. -/
structure Shared where
  lock : Lock := {}
  turns : Lock := {}
  ledger : Ledger := {}
  account : Account := {}

/-- Who has the lock that a request keeps until it is done. -/
def Shared.held (v : Shared) (request : Request) : Option TaskId :=
  if request.isPass then v.turns.owner else v.lock.owner

/-- Nothing was done for a task yet. -/
def Unbegun (a : Account) (t : TaskId) : Prop := t ∉ a.begun ∧ ∀ x ∈ a.ended, x.task ≠ t

/-- A task that has launched a process has kept its lock since, and no rival came after it. -/
def Current (σ : Scene) (a : Account) (held : Option TaskId) (t : TaskId) (request : Request) :
    Prop :=
  t ∈ a.begun → held = some t ∧ (rivals σ.asked request a.begun).getLast? = some t

/-- A failure that comes up again: neither one of the operating system nor a timeout. Either the
creation of a process has failed with it, or the path of the report holds a null character. -/
structure Refused (σ : Scene) (t : TaskId) (e : Fault) : Prop where
  not_os : ∀ error, e ≠ .os error
  not_timeout : e ≠ .compileTimeout
  cause : .launched t (.error e) ∈ σ.events ∨
    e = .nullInPath ∧ σ.settings.reportPath.parts.any (·.toList.contains (Char.ofNat 0))

/-- How far the task of a request got, when some folders are left: it has the reports of those
before. -/
inductive Midway (σ : Scene) (a : Account) (turn : Option TaskId) (ledger : Ledger) (t : TaskId) :
    Request → BatchStage → List Path → Prop where
  | single (folder : Path) : Midway σ a turn ledger t (.runFolder 0 folder) .single [folder]
  | all (compiled rest : List Path) :
      Midway σ a turn ledger t (.runAll 0 (compiled ++ rest))
        (.all (a.reports t rest.length compiled).reverse) rest
  | pass {request : Request} {q : Session} {base : Ledger} {compiled rest : List Path}
      (isPass : request.isPass) (session : σ.session = some q)
      (folders : q.compiledFolders = .ok (compiled ++ rest)) (hasTurn : turn = some t)
      (found : a.base = some (t, base))
      (applied : Applied q base (a.reports t rest.length compiled) ledger) :
      Midway σ a turn ledger t request .pass rest

/-- A task before the first of the folders that are left. -/
structure Ahead (σ : Scene) (v : Shared) (t : TaskId) (request : Request) (stage : BatchStage)
    (rest : List Path) : Prop where
  midway : Midway σ v.account v.turns.owner v.ledger t request stage rest
  ended : ∀ x ∈ v.account.ended, x.task = t → rest.length ≤ x.left
  current : Current σ v.account (v.held request) t request

/-- Whether a process was asked for whose invocation has not ended. -/
def Task.isEngaged : Task → Bool
  | runnerLaunching _ | running _ _ | runnerReaping _ _ => true
  | _ => false

/-- The one-shot process that a task waits for. -/
def Task.process? : Task → Option ProcessId
  | running p _ | runnerReaping p _ => some p
  | _ => none

/-- What becomes of the task of a request. -/
inductive Stands (σ : Scene) (v : Shared) (t : TaskId) : Request → Task → Prop where
  | compileTurn {request : Request} {job : Job} (asks : request.job? = some job)
      (isPass : request.isPass) (fresh : Unbegun v.account t) :
      Stands σ v t request (.compileTurn job)
  | emptyTurn (fresh : Unbegun v.account t) : Stands σ v t (.runAll 0 []) (.emptyTurn 0)
  | works {request : Request} {w : Work} {task : Task} (works : Works w task)
      (runner : w.runner = 0) (ahead : Ahead σ v t request w.stage (w.folder :: w.rest))
      (holds : task.isEngaged → v.lock.owner = some t ∧ t ∈ v.account.begun) :
      Stands σ v t request task
  | report (folder : Path) :
      Stands σ v t (.runFolder 0 folder) (.finished (.ok (.report (v.account.report t 0))))
  | reports (folders : List Path) :
      Stands σ v t (.runAll 0 folders) (.finished (.ok (.reports (v.account.reports t 0 folders))))
  | refused {request : Request} {e : Fault} (isCall : request.isPass = false)
      (refused : Refused σ t e) : Stands σ v t request (.finished (.error e))
  | passed {request : Request} (isPass : request.isPass) (r : Except Fault Answer)
      (applied : ∀ answer q base, r = .ok answer → σ.session = some q →
        v.account.base = some (t, base) → ∃ folders, q.compiledFolders = .ok folders ∧
          Applied q base (v.account.reports t 0 folders) v.ledger) :
      Stands σ v t request (.finished r)

/-- What a task relies on stays as it is. -/
structure Spares (σ : Scene) (t : TaskId) (v v' : Shared) : Prop where
  ended : v'.account.ended.filter (·.task = t) = v.account.ended.filter (·.task = t)
  begun : t ∈ v'.account.begun ↔ t ∈ v.account.begun
  owner : v.lock.owner = some t → v'.lock.owner = some t
  current : ∀ request, σ.asked[t]? = some request →
    Current σ v.account (v.held request) t request →
      Current σ v'.account (v'.held request) t request
  turn : v.turns.owner = some t →
    v'.turns.owner = some t ∧ v'.account.base = v.account.base ∧ v'.ledger = v.ledger
  base : ∀ base, v'.account.base = some (t, base) →
    v.account.base = some (t, base) ∧ v'.ledger = v.ledger

section Tasks

variable {σ : Scene} {v v' : Shared} {a a' : Account} {t : TaskId} {request : Request}
  {stage : BatchStage} {rest : List Path} {turn turn' : Option TaskId} {ledger ledger' : Ledger}

theorem Midway.congr (h : Midway σ a turn ledger t request stage rest)
    (hreports : ∀ fs, a'.reports t rest.length fs = a.reports t rest.length fs)
    (hturn : turn = some t → turn' = some t ∧ a'.base = a.base ∧ ledger' = ledger) :
    Midway σ a' turn' ledger' t request stage rest := by
  cases h with
  | single folder => exact .single folder
  | all compiled rest =>
      rw [← hreports]
      exact .all compiled rest
  | pass hpass hsession hfolders hhas hbase happlied =>
      obtain ⟨hhas', hbase', rfl⟩ := hturn hhas
      rw [← hreports] at happlied
      exact .pass hpass hsession hfolders hhas' (hbase'.trans hbase) happlied

/-- A pass has the compile lock. -/
theorem Midway.held (h : Midway σ v.account v.turns.owner v.ledger t request stage rest)
    (howner : v.lock.owner = some t) : v.held request = some t := by
  cases h with
  | single | all => exact howner
  | pass hpass _ _ hhas _ _ => rwa [Shared.held, if_pos hpass]

namespace Spares

theorem mem_ended_iff (h : Spares σ t v v') {x : Invocation} (hx : x.task = t) :
    x ∈ v'.account.ended ↔ x ∈ v.account.ended := by
  have hmem := congrArg (x ∈ ·) h.ended
  simpa [hx] using hmem

theorem fresh (h : Spares σ t v v') (hfresh : Unbegun v.account t) : Unbegun v'.account t := by
  refine ⟨fun ht => hfresh.1 (h.begun.mp ht), ?_⟩
  intro x hx htask
  exact hfresh.2 x ((h.mem_ended_iff htask).mp hx) htask

theorem ahead (h : Spares σ t v v') (hasks : σ.asked[t]? = some request)
    (hahead : Ahead σ v t request stage rest) : Ahead σ v' t request stage rest := by
  refine ⟨hahead.midway.congr (fun fs => Account.reports_congr h.ended fs) h.turn, ?_,
    h.current request hasks hahead.current⟩
  intro x hx htask
  exact hahead.ended x ((h.mem_ended_iff htask).mp hx) htask

theorem stands (h : Spares σ t v v') (hasks : σ.asked[t]? = some request) {task : Task}
    (hstands : Stands σ v t request task) : Stands σ v' t request task := by
  cases hstands with
  | compileTurn hjob hpass hfresh => exact .compileTurn hjob hpass (h.fresh hfresh)
  | emptyTurn hfresh => exact .emptyTurn (h.fresh hfresh)
  | works hworks hrunner hahead hholds =>
      refine .works hworks hrunner (h.ahead hasks hahead) fun hengaged => ?_
      obtain ⟨howner, hbegun⟩ := hholds hengaged
      exact ⟨h.owner howner, h.begun.mpr hbegun⟩
  | report folder =>
      have hreport : v'.account.report t 0 = v.account.report t 0 := by
        rw [Account.report, Account.report, h.ended]
      rw [← hreport]
      exact .report folder
  | reports folders =>
      rw [← Account.reports_congr h.ended]
      exact .reports folders
  | refused hcall hrefused => exact .refused hcall hrefused
  | passed hpass r happlied =>
      refine .passed hpass r fun answer q base hr hq hbase => ?_
      obtain ⟨hbase', hledger⟩ := h.base base hbase
      obtain ⟨folders, hfolders, hall⟩ := happlied answer q base hr hq hbase'
      refine ⟨folders, hfolders, ?_⟩
      rwa [Account.reports_congr h.ended, hledger]

theorem refl (σ : Scene) (t : TaskId) (v : Shared) : Spares σ t v v :=
  ⟨rfl, .rfl, id, fun _ _ => id, fun h => ⟨h, rfl, rfl⟩, fun _ h => ⟨h, rfl⟩⟩

/-- Where nothing is launched, a task relies on its locks and on its own invocations. -/
theorem of_begun_eq (hbegun : v'.account.begun = v.account.begun)
    (hended : v'.account.ended.filter (·.task = t) = v.account.ended.filter (·.task = t))
    (howner : v.lock.owner = some t → v'.lock.owner = some t)
    (hturn : v.turns.owner = some t →
      v'.turns.owner = some t ∧ v'.account.base = v.account.base ∧ v'.ledger = v.ledger)
    (hbase : ∀ base, v'.account.base = some (t, base) →
      v.account.base = some (t, base) ∧ v'.ledger = v.ledger) : Spares σ t v v' := by
  refine ⟨hended, by rw [hbegun], howner, ?_, hturn, hbase⟩
  intro request _ hcurrent ht
  rw [hbegun] at ht ⊢
  obtain ⟨hheld, hlast⟩ := hcurrent ht
  refine ⟨?_, hlast⟩
  unfold Shared.held at hheld ⊢
  split at hheld
  · next hpass => rw [if_pos hpass, (hturn hheld).1]
  · next hcall => rw [if_neg hcall, howner hheld]

/-- A task does not rely on what else is in the account. -/
theorem of_account (σ : Scene) (t : TaskId) (v : Shared) (a : Account)
    (hbegun : a.begun = v.account.begun) (hended : a.ended = v.account.ended)
    (hbase : a.base = v.account.base) :
    Spares σ t v { v with account := a } := by
  refine .of_begun_eq hbegun (by rw [hended]) id (fun hturn => ⟨hturn, hbase, rfl⟩) ?_
  exact fun base hb => ⟨hbase.symm.trans hb, rfl⟩

end Spares

end Tasks

/-! ### What all tasks have in common -/

/-- A state in which every task but the one that acts stands where it should. -/
structure Sound (σ : Scene) (actor : Option TaskId) (s : State) (v : Shared) : Prop where
  calls : s.tasks.length = v.account.calls
  present : ∀ t, actor = some t → t < s.tasks.length
  unsupervised : s.supervisors = []
  runners : s.runners = [⟨σ.settings, v.lock⟩]
  session : s.session = σ.session.map fun q => { q with lock := v.turns, ledger := v.ledger }
  stands : ∀ t task, some t ≠ actor → s.tasks[t]? = some task →
    ∃ request, σ.asked[t]? = some request ∧ Stands σ v t request task
  fresh : ∀ t, s.tasks.length ≤ t → Unbegun v.account t
  attended : ∀ p, s.isAlive p → p ∈ v.account.abandoned ∨
    ∃ t task, some t ≠ actor ∧ s.tasks[t]? = some task ∧ task.process? = some p
  created : ∀ (t : TaskId) (task : Task) (p : ProcessId), s.tasks[t]? = some task →
    task.process? = some p → p < s.processes.length
  holds : v.account.begun ≠ [] → s.files.Holds σ.settings.reportPath v.account.written
  together : ∀ t request, σ.asked[t]? = some request →
    Together t (rivals σ.asked request v.account.begun)

namespace Sound

variable {σ : Scene} {actor : Option TaskId} {s s' : State} {v v' : Shared} {t : TaskId}
  {request : Request}

/-- A step that launches nothing and ends no task, as far as the other tasks are concerned. -/
theorem spares (h : Sound σ actor s v) (htasks : s'.tasks = s.tasks)
    (hprocesses : s'.processes = s.processes) (hfiles : s'.files = s.files)
    (hunsupervised : s'.supervisors = s.supervisors)
    (hrunners : s'.runners = [⟨σ.settings, v'.lock⟩])
    (hsession : s'.session = σ.session.map fun q => { q with lock := v'.turns, ledger := v'.ledger })
    (hcalls : v'.account.calls = v.account.calls) (hbegun : v'.account.begun = v.account.begun)
    (hwritten : v'.account.written = v.account.written)
    (habandoned : ∀ p ∈ v.account.abandoned, p ∈ v'.account.abandoned)
    (hended : ∀ x ∈ v'.account.ended, x ∈ v.account.ended ∨ x.task < s.tasks.length)
    (hspares : ∀ t, some t ≠ actor → Spares σ t v v') : Sound σ actor s' v' where
  calls := by rw [htasks, hcalls, h.calls]
  present t ht := htasks ▸ h.present t ht
  unsupervised := hunsupervised.trans h.unsupervised
  runners := hrunners
  session := hsession
  stands t task hne htask := by
    obtain ⟨request, hasks, hstands⟩ := h.stands t task hne (htasks ▸ htask)
    exact ⟨request, hasks, (hspares t hne).stands hasks hstands⟩
  fresh t ht := by
    rw [htasks] at ht
    obtain ⟨hnew, hnone⟩ := h.fresh t ht
    refine ⟨by rwa [hbegun], fun x hx => ?_⟩
    rcases hended x hx with hx | hx
    · exact hnone x hx
    · exact Nat.ne_of_lt (Nat.lt_of_lt_of_le hx ht)
  attended p hp := by
    have halive : s.isAlive p := by rwa [State.isAlive, hprocesses] at hp
    rw [htasks]
    exact (h.attended p halive).imp_left (habandoned p)
  created t task p htask hp := by
    rw [hprocesses]
    exact h.created t task p (htasks ▸ htask) hp
  holds hne := by
    rw [hfiles, hwritten]
    exact h.holds (hbegun ▸ hne)
  together t request hasks := by
    rw [hbegun]
    exact h.together t request hasks

theorem emit (h : Sound σ actor s v) (e : Effect) : Sound σ actor (s.emit e) v :=
  h.spares rfl rfl rfl rfl h.runners h.session rfl rfl rfl (fun _ => id) (fun _ => .inl)
    fun t _ => .refl σ t v

theorem emitAll (h : Sound σ actor s v) (es : List Effect) : Sound σ actor (s.emitAll es) v := by
  rw [State.emitAll_eq]
  exact h.spares rfl rfl rfl rfl h.runners h.session rfl rfl rfl (fun _ => id) (fun _ => .inl)
    fun t _ => .refl σ t v

/-- A task gives way to the others: what it was is no longer of interest. -/
theorem acting (h : Sound σ none s v) {task : Task} (htask : s.tasks[t]? = some task)
    (hgone : ∀ p, task.process? = some p → s.isAlive p → p ∈ v.account.abandoned) :
    Sound σ (some t) s v where
  calls := h.calls
  present _ heq := Option.some.inj heq ▸ (List.getElem?_eq_some_iff.mp htask).1
  unsupervised := h.unsupervised
  runners := h.runners
  session := h.session
  stands t' task' _ htask' := h.stands t' task' nofun htask'
  fresh := h.fresh
  attended p hp := by
    rcases h.attended p hp with habandoned | ⟨t', task', _, htask', hp'⟩
    · exact .inl habandoned
    · by_cases heq : t' = t
      · subst heq
        obtain rfl : task' = task := Option.some.inj (htask'.symm.trans htask)
        exact .inl (hgone p hp' hp)
      · exact .inr ⟨t', task', by simpa using heq, htask', hp'⟩
  created := h.created
  holds := h.holds
  together := h.together

theorem acting_of_idle (h : Sound σ none s v) {task : Task} (htask : s.tasks[t]? = some task)
    (hidle : task.process? = none) : Sound σ (some t) s v := by
  refine h.acting htask ?_
  intro p hp
  simp [hidle] at hp

theorem stands_setTask (ht : t < s.tasks.length) (hasks : σ.asked[t]? = some request) {task : Task}
    (hstands : Stands σ v t request task)
    (hothers : ∀ t' task', some t' ≠ some t → s.tasks[t']? = some task' →
      ∃ request, σ.asked[t']? = some request ∧ Stands σ v t' request task')
    (t' : TaskId) (task' : Task) (htask : (s.setTask t task).tasks[t']? = some task') :
    ∃ request, σ.asked[t']? = some request ∧ Stands σ v t' request task' := by
  by_cases heq : t' = t
  · subst heq
    have hnew : (s.setTask t' task).tasks[t']? = some task := List.getElem?_set_self ht
    obtain rfl : task = task' := Option.some.inj (hnew.symm.trans htask)
    exact ⟨request, hasks, hstands⟩
  · rw [State.setTask_other heq] at htask
    exact hothers t' task' (by simpa using heq) htask

/-- The task that acts comes to stand somewhere, where it waits for no process. -/
theorem setTask (h : Sound σ (some t) s v) (hasks : σ.asked[t]? = some request) {task : Task}
    (hstands : Stands σ v t request task) (hidle : task.process? = none) :
    Sound σ none (s.setTask t task) v where
  calls := by rw [← h.calls, State.setTask, List.length_set]
  present := fun _ ht => by cases ht
  unsupervised := h.unsupervised
  runners := h.runners
  session := h.session
  stands t' task' _ htask :=
    stands_setTask (h.present t rfl) hasks hstands h.stands t' task' htask
  fresh t' ht := h.fresh t' (by simpa [State.setTask] using ht)
  attended p hp := by
    refine (h.attended p hp).imp_right ?_
    rintro ⟨t', task', hne, htask, hp'⟩
    have hother : t' ≠ t := fun heq => hne (congrArg some heq)
    exact ⟨t', task', by simp, by rwa [State.setTask_other hother], hp'⟩
  created t' task' p htask hp := by
    by_cases heq : t' = t
    · subst heq
      have hnew : (s.setTask t' task).tasks[t']? = some task :=
        List.getElem?_set_self (h.present t' rfl)
      rw [← Option.some.inj (hnew.symm.trans htask), hidle] at hp
      cases hp
    · rw [State.setTask_other heq] at htask
      exact h.created t' task' p htask hp
  holds := h.holds
  together := h.together

end Sound

end Machine

end Datapack
