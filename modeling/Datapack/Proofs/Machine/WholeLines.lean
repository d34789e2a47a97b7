import Datapack.Proofs.Machine.ErrorOutput
import Datapack.Proofs.Machine.StreamLines
import Mathlib.Data.List.Infix

/-! Whole lines. A supervisor hands over all lines of the error output that are not too long, in
order. Besides, when its reader drops a line before the end of it has come, it may hand over that
end. -/

namespace Datapack.Machine

open Text

/-! ### Cuts -/

/-- Whether an event is a step of the reader that drops a line before its end has come. -/
def State.cuts (limit : Nat) (s : State) : Event → Bool
  | .read 0 .stderr => s.stderr.reader = .reading && s.stderr.pipe.overflows limit
  | _ => false

/-- What is still written after each cut. -/
def cutRests (limit : Nat) (s : State) : List Event → List Bytes
  | [] => []
  | e :: events =>
    (if s.cuts limit e then [errorOutput (s.step e) events] else []) ++
      cutRests limit (s.step e) events

theorem State.cuts_eq_false {limit : Nat} {s : State} {e : Event} (hrests : e.readsStderr →
    s.stderr.reader = .reading → s.stderr.pipe.next? limit = none) : s.cuts limit e = false := by
  unfold State.cuts
  split
  · by_cases hreading : s.stderr.reader = .reading
    · simp [Pipe.overflows_eq_false (hrests rfl hreading)]
    · simp [hreading]
  · rfl

section

variable {c : Supervisor} {earlier s : State} {asked : List Request} {written : Bytes}
  {takes : Recorder} {tellsExit : Bool} {events : List Event}

theorem errorOutput_append (s : State) (before after : List Event) :
    errorOutput s (before ++ after) = errorOutput s before ++ errorOutput (s.run before) after := by
  induction before generalizing s with
  | nil => rfl
  | cons e before ih =>
      rw [List.cons_append, errorOutput, ih, errorOutput, List.append_assoc]
      rfl

/-- After its end nothing is written. -/
theorem Tended.errorOutput_eq_nil (h : Tended c earlier asked written s)
    (hsink : c.sink = .recorder takes tellsExit) (hevents : ∀ e ∈ events, e.ofCompiler)
    (hended : s.stderr.pipe.ended) : errorOutput s events = [] := by
  induction events generalizing s asked written with
  | nil => rfl
  | cons e events ih =>
      rw [List.forall_mem_cons] at hevents
      obtain ⟨sup, q, ht⟩ := h
      have hlater := ih (ht.step hsink hevents.1) hevents.2
      cases ht.hears hsink e with
      | writes _ hstays =>
          obtain ⟨hended', hnone⟩ := hstays hended
          rw [errorOutput, hnone, hlater hended']
          rfl
      | @reads item pipe hevent _ hnext hafter =>
          subst hevent
          have hended' : (s.step (.read 0 .stderr)).stderr.pipe.ended := by
            rw [hafter]
            exact (Pipe.ended_of_next? hnext).trans hended
          rw [errorOutput, hlater hended']
          rfl

/-- In a run, the stream is taken piece by piece. -/
theorem Tended.takes_run (h : Tended c earlier asked written s)
    (hsink : c.sink = .recorder takes tellsExit) (hevents : ∀ e ∈ events, e.ofCompiler) :
    ∃ texts, (s.run events).handed = s.handed ++ texts ∧
      Takes c.limit (s.stderr.pipe.buffer ++ errorOutput s events) (cutRests c.limit s events) texts
        (s.run events).stderr.pipe.buffer := by
  induction events generalizing s asked written with
  | nil => exact ⟨[], by simp [State.run], by simpa [errorOutput, cutRests] using .stop _⟩
  | cons e events ih =>
      rw [List.forall_mem_cons] at hevents
      obtain ⟨sup, q, ht⟩ := h
      have hnow := ht.step hsink hevents.1
      obtain ⟨texts, hhanded, htakes⟩ := ih hnow hevents.2
      have hrun : s.run (e :: events) = (s.step e).run events := rfl
      cases ht.hears hsink e with
      | writes hbuffer hended hrests hsame =>
          refine ⟨texts, by rw [hrun, hhanded, hsame], ?_⟩
          rw [cutRests, State.cuts_eq_false hrests, errorOutput, ← List.append_assoc, ← hbuffer]
          exact htakes
      | @reads item pipe hevent hreading hnext hafter hhands =>
          subst hevent
          refine ⟨Output.Reads.handedBy item ++ texts, ?_, ?_⟩
          · rw [hrun, hhanded, hhands, List.append_assoc]
          · have hcoming (hended : s.stderr.pipe.ended) :
                errorOutput (s.step (.read 0 .stderr)) events = [] := by
              apply hnow.errorOutput_eq_nil hsink hevents.2
              rw [hafter]
              exact (Pipe.ended_of_next? hnext).trans hended
            rw [hafter] at htakes
            have hwhole := htakes.of_next? hnext hcoming
            rw [hrun]
            simpa [cutRests, State.cuts, hreading, errorOutput, Event.errorOutput] using hwhole

/-- If it goes on, the reader comes to the end of an output that has ended. -/
theorem Tended.finishes (h : Tended c earlier asked written s)
    (hsink : c.sink = .recorder takes tellsExit) (hended : s.stderr.pipe.ended)
    (hsound : s.stderr.pipe.broken = false) (hreading : s.stderr.reader = .reading) :
    ∃ n ≤ s.stderr.pipe.buffer.length + 1,
      (s.run (List.replicate n (.read 0 .stderr))).stderr = ⟨{ ended := true }, .finished⟩ := by
  induction hlength : s.stderr.pipe.buffer.length using Nat.strong_induction_on
    generalizing s asked written with
  | _ length ih =>
      obtain ⟨sup, q, ht⟩ := h
      have hread : (Event.read 0 .stderr).ofCompiler := rfl
      have hprogress := Pipe.next?_of_ended hsound hended c.limit
      cases ht.hears hsink (.read 0 .stderr) with
      | writes _ _ hrests =>
          rw [hrests rfl hreading] at hprogress
          simp at hprogress
      | @reads item pipe _ _ hnext hafter =>
          rw [hnext, Option.some.injEq, Prod.mk.injEq] at hprogress
          rcases hprogress with ⟨hnil, rfl, rfl⟩ | ⟨item', rest, hitem, hshorter, hgoes⟩
          · refine ⟨1, Nat.le_add_left 1 length, hafter.trans ?_⟩
            cases hpipe : s.stderr.pipe with
            | mk buffer ended broken => simp_all [Output.Reads.readerAfter]
          · rw [Option.some.injEq, Prod.mk.injEq] at hitem
            obtain ⟨rfl, rfl⟩ := hitem
            obtain ⟨n, hn, hfinished⟩ := ih rest.length (hlength ▸ hshorter)
              (ht.step hsink hread) (by rw [hafter]; exact hended) (by rw [hafter]; exact hsound)
              (by rw [hafter]; exact hgoes) (by rw [hafter])
            refine ⟨n + 1, by omega, ?_⟩
            rw [List.replicate_succ]
            exact hfinished

/-- Where a line is dropped before its end, more of it has come than the limit allows. -/
theorem exists_overflow {limit : Nat} {rest : Bytes} (h : rest ∈ cutRests limit s events) :
    ∃ before after, events = before ++ after ∧ (s.run before).stderr.pipe.overflows limit ∧
      rest = errorOutput (s.run before) after := by
  induction events generalizing s with
  | nil => cases h
  | cons e events ih =>
      rw [cutRests, List.mem_append] at h
      rcases h with hcut | hlater
      · rw [List.mem_ite_nil_right, List.mem_singleton] at hcut
        obtain ⟨hcuts, rfl⟩ := hcut
        unfold State.cuts at hcuts
        split at hcuts
        · rw [Bool.and_eq_true] at hcuts
          exact ⟨[], _, rfl, hcuts.2, rfl⟩
        · cases hcuts
      · obtain ⟨before, after, rfl, hover, rfl⟩ := ih hlater
        exact ⟨e :: before, after, rfl, hover, rfl⟩

/-- If a line is never seen to be too long before its end has come, nothing counts as a line but
whole lines. -/
theorem Tended.beginsShort_eq_false (h : Tended c earlier asked written s)
    (hsink : c.sink = .recorder takes tellsExit) (hevents : ∀ e ∈ events, e.ofCompiler)
    (hwhole : ∀ before, before <+: events →
      (unfinished (written ++ errorOutput s before)).length ≤ c.limit ∨
        errorOutput s before = errorOutput s events) :
    ∀ rest ∈ cutRests c.limit s events, beginsShort c.limit rest = false := by
  intro rest hrest
  obtain ⟨before, after, rfl, hover, rfl⟩ := exists_overflow hrest
  rw [List.forall_mem_append] at hevents
  rcases hwhole before (List.prefix_append _ _) with hshort | hlast
  · obtain ⟨sup, q, ht⟩ := h.run hsink hevents.1
    obtain ⟨pieces, last, hreads⟩ := ht.reads.readings
    simp only [Pipe.overflows, ht.stderr_eq, Bool.and_eq_true, decide_eq_true_eq] at hover
    have hbound := length_le_unfinished hover.1.2 (pieces.flatMap Piece.bytes ++ last.getD [])
    rw [← hreads.whole] at hbound
    exact absurd (hbound.trans hshort) (Nat.not_le_of_lt hover.2)
  · rw [errorOutput_append, List.self_eq_append_right] at hlast
    rw [hlast]
    rfl

end

/-! ### One supervisor -/

/-- A supervisor that was started once hands over, in order, every line of the error output that is
not too long, but for those that wait to be read. Besides, it hands over the end of a line that was
dropped before its end had come, once for each cut after which the stream goes on with something that
is not too long. So whole lines are all that is handed over if and only if there is no such cut, as
when no line is too long before its end has come; and a text that is handed over is always the end of
one line. If it goes on, the reader comes to the end of an output that has ended, and then nothing
waits. -/
theorem short_lines_handed_in_order (settings : Settings) (root : Path) (limit : Nat)
    (takes : Recorder) (tellsExit : Bool) :
    let start := State.attended (recorder settings root limit takes tellsExit)
    ∀ events : List Event, (∀ e ∈ events, e.ofCompiler) →
      let s := start.run events
      let stream := errorOutput start events
      let rests := cutRests limit start events
      let texts := s.handed ++ wholeLines limit s.stderr.pipe.buffer
      (wholeLines limit stream).Sublist texts ∧
      texts.length = (wholeLines limit stream).length + rests.countP (beginsShort limit) ∧
      (texts = wholeLines limit stream ↔ ∀ rest ∈ rests, beginsShort limit rest = false) ∧
      ((∀ before, before <+: events → (unfinished (errorOutput start before)).length ≤ limit ∨
          errorOutput start before = stream) →
        texts = wholeLines limit stream) ∧
      List.SublistForall₂ (EndOf limit) s.handed (lines stream) ∧
      (s.stderr.reader = .finished → s.stderr.pipe.buffer = []) ∧
      (s.stderr.pipe.ended → s.stderr.pipe.broken = false → s.stderr.reader = .reading →
        ∃ n ≤ s.stderr.pipe.buffer.length + 1,
          (s.run (List.replicate n (.read 0 .stderr))).stderr = ⟨{ ended := true }, .finished⟩) := by
  intro start events hevents s stream rests texts
  have hstart : Tended (recorder settings root limit takes tellsExit) start
      [.supervisorStart 0] [] start := tended_attended settings root limit takes tellsExit
  obtain ⟨taken, hhanded, htakes⟩ := hstart.takes_run rfl hevents
  have hnone : start.handed = [] := rfl
  have hempty : start.stderr.pipe.buffer = [] := rfl
  rw [hnone, List.nil_append] at hhanded
  rw [hempty, List.nil_append, ← hhanded] at htakes
  have hrun := hstart.run rfl hevents
  refine ⟨htakes.sublist, htakes.length_eq, htakes.eq_iff, ?_, htakes.ends, ?_, hrun.finishes rfl⟩
  · intro hwhole
    exact htakes.eq_iff.mpr (hstart.beginsShort_eq_false rfl hevents hwhole)
  · intro hfinished
    obtain ⟨sup, q, ht⟩ := hrun
    rw [ht.stderr_eq] at hfinished ⊢
    exact (ht.reads.finished hfinished).1

/-- A line that is too long comes with its end, in two parts, and the last line is short. -/
def wholeLinesRun : List Event :=
  [.output 0 .stderr (Text.encodeUtf8 "short\nan over"),
   .output 0 .stderr (Text.encodeUtf8 "long line\nla"), .read 0 .stderr, .read 0 .stderr,
   .output 0 .stderr (Text.encodeUtf8 "st"), .exit 0 0]

theorem wholeLinesRun_handed :
    let start := State.attended (recorder .default (Path.ofString "/ws") 8 (fun _ _ => .ok ()) true)
    let s := start.run wholeLinesRun
    let stream := errorOutput start wholeLinesRun
    (∀ e ∈ wholeLinesRun, e.ofCompiler) ∧
    (∀ before, before <+: wholeLinesRun → (unfinished (errorOutput start before)).length ≤ 8 ∨
      errorOutput start before = stream) ∧
    s.handed = ["short\n"] ∧ wholeLines 8 stream = ["short\n", "last"] ∧
    s.handed ++ wholeLines 8 s.stderr.pipe.buffer = wholeLines 8 stream ∧
    s.stderr.pipe.ended ∧ s.stderr.pipe.broken = false ∧ s.stderr.reader = .reading ∧
    ∃ n ≤ s.stderr.pipe.buffer.length + 1,
      (s.run (List.replicate n (.read 0 .stderr))).stderr = ⟨{ ended := true }, .finished⟩ := by
  have hevents : ∀ e ∈ wholeLinesRun, e.ofCompiler := by decide +kernel
  obtain ⟨_, _, _, hsame, _, _, hfinishes⟩ :=
    short_lines_handed_in_order .default (Path.ofString "/ws") 8 (fun _ _ => .ok ()) true wholeLinesRun hevents
  refine ⟨hevents, ?whole, by decide +kernel, by decide +kernel, hsame ?whole, ?ended, ?sound,
    ?reading, hfinishes ?ended ?sound ?reading⟩
  case whole =>
    intro before hbefore
    rw [← List.mem_inits] at hbefore
    revert before
    decide +kernel
  all_goals decide +kernel

/-- A line that is too long comes in two parts and is read in between. -/
def cutLineRun : List Event :=
  [.output 0 .stderr (Text.encodeUtf8 "an overlong "), .read 0 .stderr,
   .output 0 .stderr (Text.encodeUtf8 "line\n"), .read 0 .stderr]

/-- The end of a line is handed over as if it was a line: the whole line is too long. -/
theorem cutLineRun_end_handed :
    let start := State.attended (recorder .default (Path.ofString "/ws") 8 (fun _ _ => .ok ()) true)
    let s := start.run cutLineRun
    let stream := errorOutput start cutLineRun
    (∀ e ∈ cutLineRun, e.ofCompiler) ∧ s.handed = ["line\n"] ∧
    lines stream = [Text.encodeUtf8 "an overlong line\n"] ∧
    ¬∀ text ∈ s.handed, ∃ line ∈ lines stream, (content line).length ≤ 8 ∧ text = shown line := by
  decide +kernel

end Datapack.Machine
