import Mathlib.Data.List.Infix
import Datapack.Proofs.Machine.Driven

/-! Which settings compilers are launched with while the settings of their session change. A
compiler that stays is launched with the settings and the root that the session has at that time.
One-shot compiles are launched with the settings that the session had when it was started, since its
runner keeps them. -/

namespace Datapack.Machine

open Diagnostic Text

/-! ### Sessions that have been started -/

/-- What is asked of a session after its start, with settings that change meanwhile. -/
def Request.ofEditing : Request → Bool
  | save _ | compile | restart | configure _ | override _ => true
  | gameStarted _ | gameStopped | closeDocument _ => true
  | _ => false

def Event.ofEditing (e : Event) : Bool := e.request?.all (·.ofEditing)

/-- All compilers of a session are of its mode, and its runners have the settings `base`. -/
structure Uniform (mode : CompilerMode) (base : Settings) (s : State) : Prop where
  session : s.mode? = some mode
  runners : ∀ settings ∈ s.runners.map (·.settings), settings = base
  tasks : ∀ task ∈ s.tasks, task.fits mode

/-- A launch of a compiler: one that stays is launched from what the session has then, a one-shot
compile from the settings of its runner, which have the report removed before. -/
inductive LaunchedFrom (mode : CompilerMode) (base : Settings) (files : FileTree) (s' : State) :
    Launch → Prop where
  | resident {now : Settings} {root : Path} (resident : mode = .persistent)
      (ordered : s'.orders = some (now, some root)) :
      LaunchedFrom mode base files s' (residentLaunch now root)
  | oneShot (oneShot : mode = .batch) (folder : Path)
      (removed : files.remove base.reportPath = .ok s'.files) :
      LaunchedFrom mode base files s' (State.oneShotLaunch base folder)

section

variable {mode : CompilerMode} {base : Settings} {s s₁ s' : State} {t : TaskId} {e : Event}

/-- No task changes the settings or the root on its way. -/
theorem Drives.orders (h : Drives mode t s s') : s'.orders = s.orders := by
  cases h with
  | stays steady => exact steady.orders
  | rests steady => exact steady.orders
  | writes steady => exact steady.orders
  | launches steady => exact steady.orders
  | compiles steady => exact steady.orders

theorem Drives.runners (h : Drives mode t s s') :
    s'.runners.map (·.settings) = s.runners.map (·.settings) := by
  cases h with
  | stays steady => exact steady.runners
  | rests steady => exact steady.runners
  | writes steady => exact steady.runners
  | launches steady => exact steady.runners
  | compiles steady => exact steady.runners

/-- Where a task waits, it fits the mode that it was driven in. -/
theorem Drives.tasks (h : Drives mode t s s') (hs : ∀ task ∈ s.tasks, task.fits mode) :
    ∀ task ∈ s'.tasks, task.fits mode := by
  have hset {s₂ : State} {task : Task} (htasks : s₂.tasks = s.tasks) (htask : task.fits mode) :
      ∀ task' ∈ (s₂.setTask t task).tasks, task'.fits mode := by
    intro task' htask'
    rcases List.mem_or_eq_of_mem_set htask' with hold | rfl
    · exact hs task' (htasks ▸ hold)
    · exact htask
  cases h with
  | stays steady => rwa [steady.tasks]
  | rests steady fits => exact hset steady.tasks fits
  | writes steady resident => exact hset steady.tasks (by rintro _ ⟨⟩; exact resident.symm)
  | launches steady resident => exact hset steady.tasks (by rintro _ ⟨⟩; exact resident.symm)
  | compiles steady oneShot => exact hset steady.tasks (by rintro _ ⟨⟩; exact oneShot.symm)

/-- What a task launches on its way. -/
theorem Drives.launches_of_mem (h : Drives mode t s s')
    (hrunners : ∀ settings ∈ s.runners.map (·.settings), settings = base) :
    ∃ es : List Effect, s'.trace = s.trace ++ es.toArray ∧
      ∀ launch, .launch launch ∈ es → LaunchedFrom mode base s.files s' launch := by
  have hundriven {es : List Effect} (hes : ∀ e ∈ es, e.drives = false) (launch : Launch) :
      .launch launch ∉ es := fun hmem => Bool.noConfusion (hes _ hmem)
  have hlast {es : List Effect} {last : Effect} {launch : Launch}
      (hes : ∀ e ∈ es, e.drives = false) (hmem : .launch launch ∈ es ++ [last]) :
      .launch launch = last := by
    rcases List.mem_append.mp hmem with hmem | hmem
    · exact absurd hmem (hundriven hes launch)
    · exact List.mem_singleton.mp hmem
  cases h with
  | stays steady =>
      obtain ⟨es, htrace, hes⟩ := steady.trace
      exact ⟨es, htrace, fun launch hmem => absurd hmem (hundriven hes launch)⟩
  | rests steady =>
      obtain ⟨es, htrace, hes⟩ := steady.trace
      exact ⟨es, htrace, fun launch hmem => absurd hmem (hundriven hes launch)⟩
  | writes steady =>
      obtain ⟨es, htrace, hes⟩ := steady.trace_push _
      refine ⟨_, htrace, fun launch hmem => ?_⟩
      cases hlast hes hmem
  | launches steady resident ordered =>
      obtain ⟨es, htrace, hes⟩ := steady.trace_push _
      refine ⟨_, htrace, fun launch hmem => ?_⟩
      cases hlast hes hmem
      exact .resident resident (steady.orders.trans ordered)
  | compiles steady oneShot ordered removed =>
      obtain ⟨es, htrace, hes⟩ := steady.trace_push _
      refine ⟨_, htrace, fun launch hmem => ?_⟩
      cases hlast hes hmem
      obtain rfl := hrunners _ ordered
      exact .oneShot oneShot _ removed

/-! ### Steps and runs -/

theorem State.mode?_eq_of_orders (h : s'.orders = s.orders) : s'.mode? = s.mode? := by
  rw [State.mode?, State.mode?, h]

/-- An event of a session drives its compilers in its mode. -/
theorem Uniform.modeAt?_getD (h : Uniform mode base s)
    (he : e.ofEditing ∨ ∃ root, e = .call (.start root)) : (s.modeAt? e).getD mode = mode := by
  have htask (hcall : e.request? = none) : (s.modeAt? e).getD mode = mode := by
    have hmode : s.modeAt? e = e.task?.bind fun t => s.tasks[t]?.bind Task.mode? := by
      cases e <;> first | rfl | cases hcall
    rw [hmode]
    cases hm : e.task?.bind fun t => s.tasks[t]?.bind Task.mode? with
    | none => rfl
    | some m =>
        obtain ⟨t, -, hm⟩ := Option.bind_eq_some_iff.mp hm
        obtain ⟨task, htask, hm⟩ := Option.bind_eq_some_iff.mp hm
        exact h.tasks task (List.mem_of_getElem? htask) m hm
  rcases he with he | ⟨root, rfl⟩
  · cases hrequest : e.request? with
    | none => exact htask hrequest
    | some request =>
        cases e <;> cases hrequest
        cases request <;> first | rfl | cases he
  · rfl

/-- A task that is set up in a session of one mode leaves the session so. -/
theorem Uniform.prepared (h : Uniform mode base s) (hprepared : Prepared s e t s₁)
    (hstart : ∀ root, e = .call (.start root) →
      ∀ settings old, s.orders = some (settings, old) → settings = base) :
    (∀ settings ∈ s₁.runners.map (·.settings), settings = base) ∧
      ∀ task ∈ s₁.tasks, task.fits mode := by
  constructor
  · intro settings hsettings
    rcases hprepared.runners settings hsettings with hold | ⟨root, rfl, old, horders⟩
    · exact h.runners settings hold
    · exact hstart root rfl settings old horders
  · intro task htask
    rcases hprepared.tasks with ⟨hsame, -⟩ | ⟨hnew, -⟩
    · exact h.tasks task (hsame ▸ htask)
    · rw [hnew, List.mem_append, List.mem_singleton] at htask
      rcases htask with htask | rfl
      · exact h.tasks task htask
      · exact nofun

/-- What an event launches in a session whose mode stays as it is, and what it leaves. -/
theorem Uniform.step (h : Uniform mode base s)
    (he : e.ofEditing ∨ ∃ root, e = .call (.start root))
    (hstart : ∀ root, e = .call (.start root) →
      ∀ settings old, s.orders = some (settings, old) → settings = base)
    (hmode : (s.step e).mode? = some mode) :
    Uniform mode base (s.step e) ∧
      ∀ launch, .launch launch ∈ s.effects e →
        LaunchedFrom mode base s.files (s.step e) launch := by
  have hdriven := s.driven_step e
  have hlaunched (es : List Effect) (htrace : (s.step e).trace = s.trace ++ es.toArray)
      (hes : ∀ launch, .launch launch ∈ es → LaunchedFrom mode base s.files (s.step e) launch) :
      ∀ launch, .launch launch ∈ s.effects e →
        LaunchedFrom mode base s.files (s.step e) launch := by
    rwa [show s.effects e = es by simp [State.effects, htrace]]
  have hindex := h.modeAt?_getD he
  generalize s.step e = s' at hdriven hlaunched hmode
  cases hdriven with
  | idle => exact ⟨h, hlaunched [] (by simp) (by simp)⟩
  | aside nobody tasks orders runners trace undriven =>
      refine ⟨⟨hmode, runners ▸ h.runners, tasks ▸ h.tasks⟩, hlaunched _ trace ?_⟩
      intro launch hmem
      cases undriven _ hmem
  | runs actor prepared resting drives =>
      obtain ⟨hrunners, htasks⟩ := h.prepared prepared hstart
      rw [← State.mode?_eq_of_orders drives.orders, hmode, Option.getD_some, hindex] at drives
      obtain ⟨es, htrace, hes⟩ := drives.launches_of_mem hrunners
      rw [prepared.trace] at htrace
      rw [prepared.files] at hes
      exact ⟨⟨hmode, drives.runners ▸ hrunners, drives.tasks htasks⟩, hlaunched _ htrace hes⟩
  | relaunches asked =>
      obtain ⟨request, rfl, hagain⟩ := asked
      rcases he with he | ⟨root, ⟨⟩⟩
      · cases request <;> first | cases hagain; done | cases he
      · cases hagain

/-- In a session whose mode stays as it is, all compilers are of its mode. -/
theorem Uniform.run (h : Uniform mode base s) {events : List Event}
    (hevents : ∀ e ∈ events, e.ofEditing)
    (hmode : ∀ before, before <+: events → (s.run before).mode? = some mode) :
    Uniform mode base (s.run events) := by
  induction events generalizing s with
  | nil => exact h
  | cons e events ih =>
      obtain ⟨he, hevents⟩ := List.forall_mem_cons.mp hevents
      have hfirst := hmode [e] ⟨events, rfl⟩
      have hrooted : ∀ root, e = .call (.start root) →
          ∀ settings old, s.orders = some (settings, old) → settings = base := by
        rintro root rfl
        cases he
      refine ih (h.step (.inl he) hrooted hfirst).1 hevents fun before hbefore => ?_
      exact hmode (e :: before) ((List.prefix_cons_inj e).mpr hbefore)

end

/-! ### Settings that change -/

/-- One-shot compiles with either settings are launched by the same words in the same directory, and
leave their report in the same place. -/
def OneShotAlike (a b : Settings) : Prop :=
  a.launcher a.batchArgv a.batchJar = b.launcher b.batchArgv b.batchJar ∧
    a.compilerDir = b.compilerDir ∧ a.reportPath = b.reportPath

theorem oneShotLaunch_eq_iff (a b : Settings) (folder : Path) :
    State.oneShotLaunch a folder = State.oneShotLaunch b folder ∧ b.reportPath = a.reportPath ↔
      OneShotAlike a b := by
  rw [State.oneShotLaunch, State.oneShotLaunch, Launch.mk.injEq, Settings.oneShotCommand,
    Settings.oneShotCommand, List.append_cancel_right_eq, Option.some.injEq, OneShotAlike]
  constructor
  · rintro ⟨⟨hlauncher, hdirectory, -⟩, hreport⟩
    exact ⟨hlauncher, hdirectory, hreport.symm⟩
  · rintro ⟨hlauncher, hdirectory, hreport⟩
    exact ⟨⟨hlauncher, hdirectory, rfl⟩, hreport.symm⟩

theorem uniform_opened (session : Session) (files : FileTree) :
    Uniform session.settings.mode session.settings (State.opened session files) :=
  ⟨rfl, by simp [State.opened], by simp [State.opened]⟩

/-- A session is started, and then documents are saved, compiles and restarts are asked for, and
the settings change, but not the mode. A compiler that stays is always launched with the settings
and the root that the session has then. A one-shot compile is launched with the settings that the
session had when it was started, which also tell where its report is removed before and read
afterwards: these are as the settings of the session demand if and only if both agree on one-shot
compiles. -/
theorem launched_from_settings {session : Session} (files : FileTree) (root : Option Path)
    {events before after : List Event} {e : Event} (hevents : ∀ e ∈ events, e.ofEditing)
    (hmode : ∀ earlier, earlier <+: events →
      ((State.opened session files).run (.call (.start root) :: earlier)).mode? =
        some session.settings.mode)
    (hsplit : .call (.start root) :: events = before ++ e :: after) :
    let s := (State.opened session files).run before
    ∃ now root', (s.step e).orders = some (now, root') ∧
      (∀ r ∈ s.runners, r.settings = session.settings) ∧
      ∀ launch, .launch launch ∈ s.effects e →
        match session.settings.mode with
        | .persistent => ∃ root, root' = some root ∧ launch = residentLaunch now root
        | .batch => ∃ folder, launch = State.oneShotLaunch session.settings folder ∧
            s.files.remove session.settings.reportPath = .ok (s.step e).files ∧
            (launch = State.oneShotLaunch now folder ∧
                now.reportPath = session.settings.reportPath ↔
              OneShotAlike session.settings now) := by
  intro s
  have hstarted := (uniform_opened session files).step (.inr ⟨root, rfl⟩)
    (by rintro _ - settings old ⟨⟩; rfl) (hmode [] List.nil_prefix)
  have hstep : Uniform session.settings.mode session.settings s ∧
      Uniform session.settings.mode session.settings (s.step e) ∧
      ∀ launch, .launch launch ∈ s.effects e →
        LaunchedFrom session.settings.mode session.settings s.files (s.step e) launch := by
    cases before with
    | nil =>
        obtain ⟨rfl, -⟩ := List.cons.inj hsplit
        exact ⟨uniform_opened session files, hstarted⟩
    | cons first before =>
        obtain ⟨rfl, hrest⟩ := List.cons.inj hsplit
        have hbefore : Uniform session.settings.mode session.settings s := by
          refine hstarted.1.run (fun e he => hevents e ?_) fun earlier hearlier => hmode earlier ?_
          · rw [hrest]
            exact List.mem_append_left _ he
          · rw [hrest]
            exact hearlier.trans (List.prefix_append _ _)
        have he : e.ofEditing := by
          refine hevents e ?_
          rw [hrest]
          exact List.mem_append_right _ List.mem_cons_self
        refine ⟨hbefore, hbefore.step (.inl he) ?_ ?_⟩
        · rintro root rfl
          cases he
        · have hlast := hmode (before ++ [e]) ⟨after, by simp [hrest]⟩
          rw [← List.cons_append, State.run, List.foldl_append] at hlast
          exact hlast
  obtain ⟨hbefore, hafter, hlaunches⟩ := hstep
  obtain ⟨⟨now, root'⟩, horders, -⟩ := Option.map_eq_some_iff.mp hafter.session
  refine ⟨now, root', horders, fun r hr => hbefore.runners _ (List.mem_map_of_mem hr), ?_⟩
  intro launch hlaunch
  cases hlaunches launch hlaunch with
  | resident resident ordered =>
      rw [resident]
      rw [ordered, Option.some.injEq, Prod.mk.injEq] at horders
      obtain ⟨rfl, rfl⟩ := horders
      exact ⟨_, rfl, rfl⟩
  | oneShot oneShot folder removed =>
      rw [oneShot]
      exact ⟨folder, rfl, removed, oneShotLaunch_eq_iff _ _ folder⟩

/-- A restart after another `java` was chosen, up to where the old compiler has let go. -/
def otherJava : List Event :=
  [.launched 0 (.ok ()), .call (.override [("java", .str "other")]), .call .restart, .exit 0 0,
    .exitSeen 2]

theorem relaunched_with_other_java :
    let events := otherJava ++ [.proceed 2]
    let started : Event := .call (.start (some (Path.ofString "/ws")))
    let s := (State.opened savedSession {}).run (started :: otherJava)
    (∀ e ∈ events, e.ofEditing) ∧
    (∀ earlier ∈ events.inits, ((State.opened savedSession {}).run (started :: earlier)).mode? =
      some savedSession.settings.mode) ∧
    started :: events = (started :: otherJava) ++ [.proceed 2] ∧
    (∃ launch, .launch launch ∈ s.effects (.proceed 2) ∧
      launch.argv = ["other", "-jar", "/DPScriptServer.jar", "/ws"]) ∧
    ∃ now root, (s.step (.proceed 2)).orders = some (now, some root) ∧ now.java = "other" ∧
      ∀ launch, .launch launch ∈ s.effects (.proceed 2) → launch = residentLaunch now root := by
  intro events started s
  have hevents : ∀ e ∈ events, e.ofEditing := by decide
  have hmode : ∀ earlier ∈ events.inits,
      ((State.opened savedSession {}).run (started :: earlier)).mode? =
        some savedSession.settings.mode := by decide +kernel
  have hsplit : started :: events = (started :: otherJava) ++ [.proceed 2] := rfl
  have hlaunch : .launch (residentLaunch { Settings.default with java := "other" }
      (Path.ofString "/ws")) ∈ s.effects (.proceed 2) := by decide +kernel
  have hjava : (s.step (.proceed 2)).orders.map (·.1.java) = some "other" := by decide +kernel
  obtain ⟨now, root, horders, -, hlaunches⟩ := launched_from_settings {} _ hevents
    (fun earlier hearlier => hmode earlier ((List.mem_inits _ _).mpr hearlier)) hsplit
  obtain ⟨root, rfl, -⟩ := hlaunches _ hlaunch
  refine ⟨hevents, hmode, hsplit, ⟨_, hlaunch, by decide +kernel⟩, now, root, horders, ?_, ?_⟩
  · rw [horders] at hjava
    exact Option.some.inj hjava
  · intro launch hmem
    obtain ⟨_, ⟨⟩, hresident⟩ := hlaunches launch hmem
    exact hresident

/-- A session of one-shot compiles still launches the `java` that it was started with, after another
one was chosen. -/
theorem compiled_with_first_java :
    let session := { savedSession with settings := { Settings.default with mode := .batch } }
    let s := (State.opened session {}).run
      [.call (.start (some (Path.ofString "/ws"))), .call (.override [("java", .str "other")])]
    let e : Event := .call (.save "file:///ws/a.dps")
    s.orders.map (fun orders => (orders.1.mode, orders.1.java)) = some (.batch, "other") ∧
    (s.step e).orders.map (·.1.oneShotCommand "/ws") =
      some ["other", "-jar", "/DPScript.jar", "/ws"] ∧
    ∃ launch, .launch launch ∈ s.effects e ∧
      launch.argv = ["java", "-jar", "/DPScript.jar", "/ws"] := by
  intro session s e
  have hlaunch : .launch (State.oneShotLaunch Settings.default (Path.ofString "/ws")) ∈
      s.effects e := by decide +kernel
  exact ⟨by decide +kernel, by decide +kernel, _, hlaunch, by decide +kernel⟩

end Datapack.Machine
