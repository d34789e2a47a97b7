import Datapack.Proofs.Machine.Saves
import Mathlib.Data.List.Infix

/-! Passes of a running compiler that answers each pass with lines. The lines do not say to which
pass they belong, so those of an earlier pass that are read after the last pass was opened stand
beside its own. -/

namespace Datapack.Machine

open Diagnostic Text

/-! ### Entered lines -/

namespace Post

/-- The record of a line, if it is handed over and is an error line that can be placed. -/
def record? (post : Post) (l : Line) : Option Record :=
  if post.limit < l.bytes.length then none else lineRecord? post.documents post.files l.text

/-- The errors that lines report for a document, in order. -/
def errors (post : Post) (u : String) (lines : List Line) : List Record :=
  (lines.filterMap post.record?).filter (·.uri = u)

@[simp] theorem errors_nil (post : Post) (u : String) : post.errors u [] = [] := rfl

@[simp] theorem errors_append (post : Post) (u : String) (lines later : List Line) :
    post.errors u (lines ++ later) = post.errors u lines ++ post.errors u later := by
  simp [errors]

theorem enter_of_none {post : Post} {l : Line} (h : post.record? l = none) (t : Ledger) :
    post.enter t l = t := by
  unfold record? at h
  unfold enter
  split
  · rfl
  · next hshort =>
      rw [if_neg hshort] at h
      exact (Ledger.perform_line_of_none h t).1

theorem enter_of_some {post : Post} {l : Line} {r : Record} (h : post.record? l = some r)
    (t : Ledger) :
    post.enter t l =
      ⟨t.store.note ⟨r.uri, (t.stream.append r).get r.uri⟩, t.stream.append r⟩ := by
  unfold record? at h
  unfold enter
  split
  · next hlong => simp [hlong] at h
  · next hshort =>
      rw [if_neg hshort] at h
      rw [Ledger.perform_line_of_some h]

theorem stream_enter (post : Post) (t : Ledger) (l : Line) (u : String) :
    (post.enter t l).stream.get u = t.stream.get u ++ post.errors u [l] := by
  cases hr : post.record? l with
  | none => simp [enter_of_none hr, errors, hr]
  | some r =>
      rw [enter_of_some hr, Stream.get_append]
      by_cases hu : u = r.uri
      · simp [errors, hr, hu]
      · have hu' : ¬r.uri = u := fun e => hu e.symm
        simp [errors, hr, hu']

/-- A line keeps the store in step with the stream. -/
theorem store_enter (post : Post) {t : Ledger} {u : String} (h : t.store.get u = t.stream.get u)
    (l : Line) : (post.enter t l).store.get u = (post.enter t l).stream.get u := by
  cases hr : post.record? l with
  | none => rw [enter_of_none hr, h]
  | some r =>
      rw [enter_of_some hr]
      by_cases hu : u = r.uri
      · simp [Store.get_note, hu]
      · have hu' : ¬r.uri = u := fun e => hu e.symm
        simp [Store.get_note, Stream.get_append, hu, hu', h]

end Post

/-! ### Runs -/

/-- The lines that the compiler writes, in order. -/
def emitted (beats : List Beat) : List Line := beats.flatMap Beat.emitted

@[simp] theorem emitted_nil : emitted [] = [] := rfl

@[simp] theorem emitted_append (beats later : List Beat) :
    emitted (beats ++ later) = emitted beats ++ emitted later := by
  simp [emitted]

@[simp] theorem emitted_cons (b : Beat) (beats : List Beat) :
    emitted (b :: beats) = b.emitted ++ emitted beats := by
  simp [emitted]

namespace Post

def play (post : Post) (s : State) (beats : List Beat) : State :=
  s.run (beats.map (Beat.event post.process))

theorem play_append (post : Post) (s : State) (beats later : List Beat) :
    post.play s (beats ++ later) = post.play (post.play s beats) later := by
  simp [play, State.run]

/-- What is viewed after beats. -/
def after (post : Post) (s : State) (beats : List Beat) : View := post.view (post.play s beats)

variable {post : Post} {s : State}

@[simp] theorem after_nil : post.after s [] = post.view s := rfl

theorem Holds.play (h : post.Holds s) (beats : List Beat) : post.Holds (post.play s beats) := by
  induction beats generalizing s with
  | nil => exact h
  | cons b beats ih => exact ih (h.step b).holds

theorem Holds.moves (h : post.Holds s) (beats : List Beat) (b : Beat) :
    post.Moves (post.after s beats) b (post.after s (beats ++ [b])) := by
  rw [after, after, play_append]
  exact ((h.play beats).step b).moves

theorem Moves.opened {v v' : View} {b : Beat} (h : post.Moves v b v') :
    v.opened ≤ v'.opened ∧ v'.opened ≤ v.opened + 1 := by
  cases h <;> simp

end Post

/-! ### What is read -/

/-- What was read between two views: of the lines that were waiting and those that came since, some
were handed over and the others are left, all in order. The lines that were handed over were
entered, unless a pass was opened in between. -/
structure Post.Read (post : Post) (waiting came handed left : List Line) (v v' : View) : Prop where
  order : waiting ++ came = handed ++ left
  pending : v'.pending = left.flatMap Line.ended
  opened : v.opened ≤ v'.opened
  stream : v'.opened = v.opened → ∀ u,
    v'.ledger.stream.get u = v.ledger.stream.get u ++ post.errors u handed
  store : v'.opened = v.opened → ∀ u, v.ledger.store.get u = v.ledger.stream.get u →
    v'.ledger.store.get u = v'.ledger.stream.get u

namespace Post

variable {post : Post} {s : State}

theorem Read.trans {waiting came handed left came' handed' left' : List Line} {v v' v'' : View}
    (h : post.Read waiting came handed left v v') (h' : post.Read left came' handed' left' v' v'') :
    post.Read waiting (came ++ came') (handed ++ handed') left' v v'' := by
  have hsame (hopened : v''.opened = v.opened) :
      v'.opened = v.opened ∧ v''.opened = v'.opened := by
    have hfirst := h.opened
    have hsecond := h'.opened
    omega
  refine ⟨?_, h'.pending, Nat.le_trans h.opened h'.opened, ?_, ?_⟩
  · rw [← List.append_assoc, h.order, List.append_assoc, h'.order, List.append_assoc]
  · intro hopened u
    obtain ⟨hfirst, hsecond⟩ := hsame hopened
    rw [h'.stream hsecond, h.stream hfirst, errors_append, List.append_assoc]
  · intro hopened u hstore
    obtain ⟨hfirst, hsecond⟩ := hsame hopened
    exact h'.store hsecond u (h.store hfirst u hstore)

theorem Moves.read {v v' : View} {b : Beat} (h : post.Moves v b v') {waiting : List Line}
    (hwaiting : v.pending = waiting.flatMap Line.ended) :
    ∃ handed left, post.Read waiting b.emitted handed left v v' := by
  cases h with
  | stay hb =>
      refine ⟨[], waiting, ?_, hwaiting, Nat.le_refl _, ?_, ?_⟩
      · simp [hb]
      · simp
      · exact fun _ _ hstore => hstore
  | pass hb uri =>
      refine ⟨[], waiting, ?_, hwaiting, Nat.le_succ _, ?_, ?_⟩
      · simp [hb]
      · exact fun hopened => absurd hopened (Nat.succ_ne_self _)
      · exact fun hopened => absurd hopened (Nat.succ_ne_self _)
  | emit l =>
      refine ⟨[], waiting ++ [l], ?_, ?_, Nat.le_refl _, ?_, ?_⟩
      · simp [Beat.emitted]
      · simp [hwaiting]
      · simp
      · exact fun _ _ hstore => hstore
  | enter l hpending =>
      obtain ⟨left, rfl, hleft⟩ := Line.flatMap_ended_eq_append (hwaiting.symm.trans hpending)
      refine ⟨[l], left, ?_, hleft, Nat.le_refl _, ?_, ?_⟩
      · simp [Beat.emitted]
      · exact fun _ u => post.stream_enter v.ledger l u
      · exact fun _ u hstore => post.store_enter hstore l

theorem Holds.read (h : post.Holds s) (waiting : List Line)
    (hwaiting : (post.view s).pending = waiting.flatMap Line.ended) (beats : List Beat) :
    ∃ handed left,
      post.Read waiting (emitted beats) handed left (post.view s) (post.after s beats) := by
  induction beats using List.reverseRecOn with
  | nil =>
      refine ⟨[], waiting, by simp, hwaiting, Nat.le_refl _, ?_, ?_⟩
      · simp
      · exact fun _ _ hstore => hstore
  | append_singleton beats b ih =>
      obtain ⟨handed, left, hread⟩ := ih
      obtain ⟨handed', left', hread'⟩ := (h.moves beats b).read hread.pending
      refine ⟨handed ++ handed', left', ?_⟩
      simpa using hread.trans hread'

end Post

/-! ### The last pass -/

/-- The lines of the first passes of a script, pass by pass. -/
def passLines (script : Nat → List Line) (n : Nat) : List Line := (List.range n).flatMap script

theorem passLines_succ (script : Nat → List Line) (n : Nat) :
    passLines script (n + 1) = passLines script n ++ script n := by
  simp [passLines, List.range_succ]

namespace Post

/-- A session whose compiler has nothing to do: no save is under way, all its output was read, and
no pass was opened yet. -/
structure Idle (post : Post) (s : State) : Prop where
  attended : ∃ session sup process, Attends post s session sup process ∧
    session.lock = {} ∧ sup.writeLock = {} ∧ process.stderr.pipe.buffer = []
  rested : ∀ task ∈ s.tasks, ∃ r, task = .finished r
  unopened : post.opening ∉ s.trace.toList

/-- The compiler answers passes with the lines of a script: those of a pass after it was opened and
before those of the next pass. In the end all of them were written and read. -/
structure Answers (post : Post) (script : Nat → List Line) (s : State) (beats : List Beat) :
    Prop where
  ordered : ∀ sofar, sofar <+: beats →
    emitted sofar <+: passLines script (post.after s sofar).opened
  complete : emitted beats = passLines script (post.after s beats).opened
  read : (post.after s beats).pending = []

theorem answers_iff {post : Post} {script : Nat → List Line} {s : State} {beats : List Beat} :
    post.Answers script s beats ↔
      (∀ sofar ∈ beats.inits, emitted sofar <+: passLines script (post.after s sofar).opened) ∧
        emitted beats = passLines script (post.after s beats).opened ∧
        (post.after s beats).pending = [] := by
  simp only [List.mem_inits]
  exact ⟨fun h => ⟨h.ordered, h.complete, h.read⟩, fun h => ⟨h.1, h.2.1, h.2.2⟩⟩

instance (post : Post) (script : Nat → List Line) (s : State) (beats : List Beat) :
    Decidable (post.Answers script s beats) :=
  decidable_of_iff' _ answers_iff

/-- The beats before the one that opens a pass. -/
def beforePass (post : Post) (n : Nat) (s : State) : List Beat → List Beat
  | [] => []
  | b :: beats =>
    let next := s.step (b.event post.process)
    if (post.view next).opened < n then b :: beforePass post n next beats else []

/-- How many of the lines that the compiler wrote were read. -/
def delivered (post : Post) (s : State) (beats : List Beat) : Nat :=
  (emitted beats).length - (post.after s beats).pending.count Pipe.lineFeed

/-- The lines of the passes so far that are still to be read. -/
def late (post : Post) (script : Nat → List Line) (s : State) (beats : List Beat) : List Line :=
  (passLines script (post.after s beats).opened).drop (post.delivered s beats)

variable {post : Post} {s : State}

theorem Idle.holds (h : post.Idle s) : post.Holds s := by
  obtain ⟨session, sup, process, hattends, hlock, hwrite, hbuffer⟩ := h.attended
  have hturns : Turns post s.tasks {} {} := by
    refine ⟨?_, ?_, rfl, ?_, ?_⟩
    · rintro t ⟨⟩
    · simp
    · rintro t ⟨⟩
    · intro t task ht
      obtain ⟨r, rfl⟩ := h.rested task (List.mem_of_getElem? ht)
      exact .inl ⟨.finished r, by simp⟩
  exact ⟨session, sup, process, hattends, by rw [hlock, hwrite]; exact hturns, [], hbuffer⟩

theorem Idle.view (h : post.Idle s) : (post.view s).pending = [] ∧ (post.view s).opened = 0 := by
  obtain ⟨session, sup, process, hattends, _, _, hbuffer⟩ := h.attended
  rw [hattends.view_eq]
  exact ⟨hbuffer, List.count_eq_zero_of_not_mem h.unopened⟩

theorem Holds.beforePass (h : post.Holds s) {k : Nat} (hstart : (post.view s).opened ≤ k)
    {beats : List Beat} (hend : (post.after s beats).opened = k + 1) :
    ∃ b rest, beats = post.beforePass (k + 1) s beats ++ b :: rest ∧
      (post.after s (post.beforePass (k + 1) s beats)).opened = k ∧
      (post.after s (post.beforePass (k + 1) s beats ++ [b])).opened = k + 1 := by
  induction beats generalizing s with
  | nil =>
      rw [after_nil] at hend
      omega
  | cons b beats ih =>
      have hstep := (h.step b).moves.opened
      by_cases hlt : (post.view (s.step (b.event post.process))).opened < k + 1
      · obtain ⟨b', rest, hbeats, hbefore, hopens⟩ :=
          ih (h.step b).holds (Nat.le_of_lt_succ hlt) hend
        have hcons : post.beforePass (k + 1) s (b :: beats) =
            b :: post.beforePass (k + 1) (s.step (b.event post.process)) beats := by
          simp only [Post.beforePass, hlt, if_true]
        rw [hcons]
        exact ⟨b', rest, congrArg (b :: ·) hbeats, hbefore, hopens⟩
      · have hnone : post.beforePass (k + 1) s (b :: beats) = [] := by
          simp only [Post.beforePass, hlt, if_false]
        rw [hnone]
        refine ⟨b, beats, rfl, ?_, ?_⟩
        · rw [after_nil]
          omega
        · have hsame : post.after s ([] ++ [b]) = post.view (s.step (b.event post.process)) := rfl
          rw [hsame]
          omega

/-- Nothing stands when a pass was opened, and unread lines stay unread. -/
theorem Moves.of_opened {v v' : View} {b : Beat} (h : post.Moves v b v')
    (hopened : v'.opened = v.opened + 1) :
    b.emitted = [] ∧ v'.pending = v.pending ∧
      ∀ u, v'.ledger.stream.get u = [] ∧ v'.ledger.store.get u = [] := by
  cases h with
  | stay hb => exact absurd hopened.symm (Nat.succ_ne_self _)
  | emit l => exact absurd hopened.symm (Nat.succ_ne_self _)
  | enter l hpending => exact absurd hopened.symm (Nat.succ_ne_self _)
  | pass hb uri =>
      refine ⟨hb, rfl, ?_⟩
      intro u
      refine ⟨?_, Ledger.store_openPass v.ledger [uri] u⟩
      rw [Ledger.get_stream_perform]
      rfl

/-- If no pass is opened after another one and all lines are read in the end, what stands are the
errors of the lines that were waiting when the pass was opened and of those that came later. -/
theorem Holds.store_since_pass (h : post.Holds s) {before rest : List Beat} {b : Beat}
    {left : List Line} (hleft : (post.after s before).pending = left.flatMap Line.ended)
    (hpass : (post.after s (before ++ [b])).opened = (post.after s before).opened + 1)
    (hlast : (post.after s (before ++ b :: rest)).opened = (post.after s (before ++ [b])).opened)
    (hread : (post.after s (before ++ b :: rest)).pending = []) (u : String) :
    b.emitted = [] ∧
      (post.after s (before ++ b :: rest)).ledger.store.get u =
        post.errors u (left ++ emitted rest) := by
  have hend :
      post.after (post.play s (before ++ [b])) rest = post.after s (before ++ b :: rest) := by
    rw [after, after, ← play_append, List.append_assoc, List.singleton_append]
  obtain ⟨hsilent, hkept, hcleared⟩ := (h.moves before b).of_opened hpass
  obtain ⟨handed, unread, hsince⟩ := (h.play (before ++ [b])).read left (hkept.trans hleft) rest
  rw [hend] at hsince
  have hnone : unread = [] := by
    have hcount := Line.count_flatMap_ended unread
    rw [← hsince.pending, hread] at hcount
    exact List.eq_nil_of_length_eq_zero hcount.symm
  have horder : left ++ emitted rest = handed := by simpa [hnone] using hsince.order
  obtain ⟨hstream, hstore⟩ := hcleared u
  refine ⟨hsilent, ?_⟩
  calc (post.after s (before ++ b :: rest)).ledger.store.get u
    _ = (post.after s (before ++ b :: rest)).ledger.stream.get u :=
        hsince.store hlast u (hstore.trans hstream.symm)
    _ = (post.after s (before ++ [b])).ledger.stream.get u ++ post.errors u handed :=
        hsince.stream hlast u
    _ = post.errors u (left ++ emitted rest) := by rw [hstream, List.nil_append, horder]

/-- The late lines are those that wait to be read and those that are still to be written. -/
theorem late_eq {script : Nat → List Line} {beats : List Beat} {handed left unwritten : List Line}
    (horder : emitted beats = handed ++ left)
    (hleft : (post.after s beats).pending = left.flatMap Line.ended)
    (hscript : emitted beats ++ unwritten = passLines script (post.after s beats).opened) :
    post.late script s beats = left ++ unwritten := by
  have hdelivered : post.delivered s beats = handed.length := by
    rw [delivered, hleft, Line.count_flatMap_ended, horder]
    simp
  rw [late, hdelivered, ← hscript, horder, List.append_assoc, List.drop_left]

/-- The lines read after the last pass was opened are the late ones and those of the pass. -/
theorem Answers.store_eq (hidle : post.Idle s) {script : Nat → List Line} {beats : List Beat}
    (hanswers : post.Answers script s beats) {k : Nat}
    (hopened : (post.after s beats).opened = k + 1) (u : String) :
    (post.after s beats).ledger.store.get u =
      post.errors u (post.late script s (post.beforePass (k + 1) s beats) ++ script k) := by
  obtain ⟨hpending, hunopened⟩ := hidle.view
  obtain ⟨b, rest, hbeats, hbefore, hopens⟩ := hidle.holds.beforePass (by omega) hopened
  generalize post.beforePass (k + 1) s beats = before at hbeats hbefore hopens ⊢
  subst beats
  obtain ⟨handed, left, hread⟩ := hidle.holds.read [] hpending before
  obtain ⟨unwritten, hscript⟩ := hanswers.ordered before (List.prefix_append _ _)
  have horder : emitted before = handed ++ left := by simpa using hread.order
  obtain ⟨hsilent, hstore⟩ := hidle.holds.store_since_pass hread.pending (by rw [hopens, hbefore])
    (by rw [hopened, hopens]) hanswers.read u
  have hlate := late_eq horder hread.pending hscript
  rw [hbefore] at hscript
  have hsince : left ++ emitted rest = left ++ unwritten ++ script k := by
    have hcomplete := hanswers.complete
    rw [hopened, passLines_succ, ← hscript] at hcomplete
    simpa [horder, hsilent] using hcomplete
  rw [hstore, hsince, hlate]

/-- After saves whose passes were all answered and read, what stands for a document are the errors
of the lines that were still to be read when the last pass was opened, and then those of the last
pass. So the last pass alone stands exactly if no late line reports an error for the document. -/
theorem store_after_last_pass (hidle : post.Idle s) {script : Nat → List Line} {beats : List Beat}
    (hanswers : post.Answers script s beats) {k : Nat}
    (hopened : (post.after s beats).opened = k + 1) (u : String) :
    let late := post.late script s (post.beforePass (k + 1) s beats)
    let store := (post.after s beats).ledger.store
    store.get u = post.errors u late ++ post.errors u (script k) ∧
    (store.get u = post.errors u (script k) ↔ post.errors u late = []) := by
  have hstore := hanswers.store_eq hidle hopened u
  rw [errors_append] at hstore
  refine ⟨hstore, ?_⟩
  rw [hstore, List.append_left_eq_self]

end Post

/-! ### Started sessions -/

/-- A session after its compiler was launched. -/
def started (session : Session) (root : Path) (files : FileTree) : State :=
  State.run { session := some session, files }
    [.call (.start (some root)), .launched 0 (.ok ())]

/-- The compiler that a session launches first. -/
def firstPost (session : Session) (files : FileTree) : Post :=
  ⟨0, 0, session.documents, files, State.longestLine⟩

/-- The supervisor of the compiler that a session launches first. -/
def firstSupervisor (session : Session) (root : Path) : Supervisor :=
  { settings := session.settings, root, limit := State.longestLine, sink := .session 0 }

/-- What a session launches first. -/
def firstLaunch (session : Session) (root : Path) : Launch :=
  ⟨session.settings.residentCommand root.toText, none, State.longestLine⟩

/-- A start asks for a process, and the session has a root from now on. -/
theorem step_start_eq {session : Session} (hmode : session.settings.mode = .persistent)
    (root : Path) (files : FileTree) :
    State.step { session := some session, files } (.call (.start (some root))) =
      { supervisors := [firstSupervisor session root]
        tasks := [.launching 0 .start]
        session := some { session with root := some root }
        files
        trace := #[.info ("Launching compiler: " ++
            String.intercalate " " (firstLaunch session root).argv),
          .launch (firstLaunch session root)] } := by
  simp [State.step, State.call, State.startSession, hmode, State.modifySession,
    State.launchCompiler, State.beginLaunch, State.aliveProcess?, State.emit, State.generation,
    State.modifySupervisor, State.setTask, firstSupervisor, firstLaunch]

/-- The session takes the compiler when its process was created. -/
theorem started_eq {session : Session} (hmode : session.settings.mode = .persistent)
    (root : Path) (files : FileTree) :
    started session root files =
      { processes := [{ launch := firstLaunch session root, owner := some 0, watched := true }]
        supervisors :=
          [{ firstSupervisor session root with process := some 0, tended := some 0 }]
        tasks := [.finished (.ok .nothing)]
        session := some { session with root := some root, compiler := some 0 }
        files
        trace := #[.info ("Launching compiler: " ++
            String.intercalate " " (firstLaunch session root).argv),
          .launch (firstLaunch session root),
          .info ("Compiler started (pid " ++ State.shownPid ++ ")")] } := by
  rw [started, State.run, List.foldl_cons, step_start_eq hmode]
  simp [State.step, State.launched, State.modifySupervisor, State.emit, State.afterLaunch,
    State.modifySession, State.closeLaunch, State.finish, State.setTask, firstSupervisor,
    firstLaunch]

theorem idle_started {session : Session} (hmode : session.settings.mode = .persistent)
    (hlock : session.lock = {}) (hclears : ∀ u, session.publisher ⟨u, []⟩ = .ok ())
    (root : Path) (files : FileTree) :
    (firstPost session files).Idle (started session root files) := by
  rw [started_eq hmode]
  refine ⟨⟨_, _, _, ⟨rfl, rfl, rfl, rfl, hmode, rfl, rfl, hclears, rfl, rfl, rfl, rfl, rfl, rfl,
    rfl, rfl⟩, hlock, ?_, ?_⟩, ?_, ?_⟩
  · rfl
  · rfl
  · simp
  · simp [Post.opening, Effect.info]

/-! ### Two passes

A document is saved twice, and each pass reports one error for it. -/

def savedSession : Session :=
  { settings := .default, documents := .given [] [], publisher := .accepting }

def savedState : State := started savedSession (Path.ofString "/ws") {}

def savedPost : Post := firstPost savedSession {}

def twoPasses : Nat → List Line
  | 0 => [⟨encodeUtf8 "error:/ws/a.dps|1-0|first", by decide +kernel⟩]
  | 1 => [⟨encodeUtf8 "error:/ws/a.dps|2-0|second", by decide +kernel⟩]
  | _ => []

def saveTwice : List Beat :=
  [.save "file:///ws/a.dps", .flush 1, .save "file:///ws/a.dps", .flush 2]

theorem idle_savedState : savedPost.Idle savedState :=
  idle_started rfl rfl (fun _ => rfl) _ _

/-- The error of the first pass is read before the second save. -/
def promptRun : List Beat :=
  saveTwice.take 2 ++ (twoPasses 0).map .emit ++ [.deliver] ++ saveTwice.drop 2 ++
    (twoPasses 1).map .emit ++ [.deliver]

theorem store_after_promptRun :
    savedPost.Idle savedState ∧ savedPost.Answers twoPasses savedState promptRun ∧
    (savedPost.after savedState promptRun).opened = 2 ∧
    (savedPost.after savedState promptRun).ledger.store.get "file:///ws/a.dps" =
      [{ uri := "file:///ws/a.dps", line := 1, column := 0, message := "second" }] := by
  have hanswers : savedPost.Answers twoPasses savedState promptRun := by decide +kernel
  have hopened : (savedPost.after savedState promptRun).opened = 2 := by decide +kernel
  refine ⟨idle_savedState, hanswers, hopened, ?_⟩
  rw [((Post.store_after_last_pass idle_savedState hanswers hopened "file:///ws/a.dps").2).mpr
    (by decide +kernel)]
  decide +kernel

/-- The error of the first pass is read after the second save. -/
def lateRun : List Beat :=
  saveTwice ++ (twoPasses 0).map .emit ++ [.deliver] ++ (twoPasses 1).map .emit ++ [.deliver]

theorem lateRun_leaks :
    savedPost.Idle savedState ∧ savedPost.Answers twoPasses savedState lateRun ∧
    (savedPost.after savedState lateRun).opened = 2 ∧
    savedPost.errors "file:///ws/a.dps" (twoPasses 1) =
      [{ uri := "file:///ws/a.dps", line := 1, column := 0, message := "second" }] ∧
    (savedPost.after savedState lateRun).ledger.store.get "file:///ws/a.dps" =
      [{ uri := "file:///ws/a.dps", line := 0, column := 0, message := "first" },
       { uri := "file:///ws/a.dps", line := 1, column := 0, message := "second" }] := by
  refine ⟨idle_savedState, ?_⟩
  decide +kernel

end Datapack.Machine
