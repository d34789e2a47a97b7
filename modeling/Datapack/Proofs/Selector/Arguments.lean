import Datapack.Selector.Signature
import Datapack.Proofs.Selector.OpenCalls
import Mathlib.Data.List.Infix

/-! Signature help while arguments are typed. An open call is a `(` behind which every parenthesis
that is opened is closed, and its commas are those outside of the closed ones. Text whose
parentheses close in it keeps the call, and its outer commas move the active parameter up to the
last one. -/

namespace Datapack.Selector

/-! ### Parentheses that close -/

/-- The text closes no parenthesis that it did not open, and leaves `depth` of them open. -/
structure LeavesOpen (depth : Nat) (cs : List Char) : Prop where
  close_le : ∀ front, front <+: cs → front.count ')' ≤ front.count '('
  open_eq : cs.count '(' = cs.count ')' + depth

instance (depth : Nat) (cs : List Char) : Decidable (LeavesOpen depth cs) :=
  decidable_of_iff
    ((∀ front ∈ cs.inits, front.count ')' ≤ front.count '(') ∧
      cs.count '(' = cs.count ')' + depth)
    ⟨fun h => ⟨fun front hfront => h.1 front ((List.mem_inits front cs).mpr hfront), h.2⟩,
      fun h => ⟨fun front hfront => h.close_le front ((List.mem_inits front cs).mp hfront),
        h.open_eq⟩⟩

/-- Each parenthesis that the text opens is closed in it, and no other one is. -/
abbrev Balanced (cs : List Char) : Prop := LeavesOpen 0 cs

theorem leavesOpen_nil_iff {depth : Nat} : LeavesOpen depth [] ↔ depth = 0 := by
  constructor
  · intro h
    simpa using h.open_eq.symm
  · rintro rfl
    exact ⟨by simp, by simp⟩

theorem leavesOpen_concat_iff {depth : Nat} {cs : List Char} {c : Char} :
    LeavesOpen depth (cs ++ [c]) ↔
      (∀ front, front <+: cs → front.count ')' ≤ front.count '(') ∧
        (cs ++ [c]).count '(' = (cs ++ [c]).count ')' + depth := by
  constructor
  · intro h
    exact ⟨fun front hfront => h.close_le front (hfront.trans (List.prefix_append cs [c])),
      h.open_eq⟩
  · rintro ⟨hle, heq⟩
    refine ⟨fun front hfront => ?_, heq⟩
    rcases List.prefix_concat_iff.mp hfront with rfl | hfront
    · omega
    · exact hle front hfront

theorem leavesOpen_open_iff {depth : Nat} {cs : List Char} :
    LeavesOpen depth (cs ++ ['(']) ↔ ∃ outer, depth = outer + 1 ∧ LeavesOpen outer cs := by
  have hopens : (cs ++ ['(']).count '(' = cs.count '(' + 1 := by simp
  have hcloses : (cs ++ ['(']).count ')' = cs.count ')' := by simp
  rw [leavesOpen_concat_iff, hopens, hcloses]
  constructor
  · rintro ⟨hle, heq⟩
    have hcs := hle cs (List.prefix_refl cs)
    exact ⟨depth - 1, by omega, hle, by omega⟩
  · rintro ⟨outer, rfl, h⟩
    have heq := h.open_eq
    exact ⟨h.close_le, by omega⟩

theorem leavesOpen_close_iff {depth : Nat} {cs : List Char} :
    LeavesOpen depth (cs ++ [')']) ↔ LeavesOpen (depth + 1) cs := by
  have hopens : (cs ++ [')']).count '(' = cs.count '(' := by simp
  have hcloses : (cs ++ [')']).count ')' = cs.count ')' + 1 := by simp
  rw [leavesOpen_concat_iff, hopens, hcloses]
  constructor
  · rintro ⟨hle, heq⟩
    exact ⟨hle, by omega⟩
  · rintro ⟨hle, heq⟩
    exact ⟨hle, by omega⟩

theorem leavesOpen_other_iff {depth : Nat} {cs : List Char} {c : Char} (hopen : c ≠ '(')
    (hclose : c ≠ ')') : LeavesOpen depth (cs ++ [c]) ↔ LeavesOpen depth cs := by
  have hopens : (cs ++ [c]).count '(' = cs.count '(' := by simp [hopen]
  have hcloses : (cs ++ [c]).count ')' = cs.count ')' := by simp [hclose]
  rw [leavesOpen_concat_iff, hopens, hcloses]
  exact ⟨fun h => ⟨h.1, h.2⟩, fun h => ⟨h.close_le, h.open_eq⟩⟩

/-- The commas of a text outside of its own parentheses. -/
def outerCommas (cs : List Char) : Nat :=
  (List.range cs.length).countP fun i =>
    cs[i]? = some ',' ∧ (cs.take i).count '(' = (cs.take i).count ')'

/-- A character counts if it is a comma and all parentheses before it are closed. -/
theorem outerCommas_concat {depth : Nat} {cs : List Char} (h : LeavesOpen depth cs) (c : Char) :
    outerCommas (cs ++ [c]) = outerCommas cs + if c = ',' ∧ depth = 0 then 1 else 0 := by
  have hdepth : cs.count '(' = cs.count ')' ↔ depth = 0 := by
    have hcount := h.open_eq
    omega
  have hbefore : (List.range cs.length).countP (fun i => (cs ++ [c])[i]? = some ',' ∧
      ((cs ++ [c]).take i).count '(' = ((cs ++ [c]).take i).count ')') = outerCommas cs := by
    apply List.countP_congr
    intro i hi
    have hlt : i < cs.length := List.mem_range.mp hi
    rw [List.getElem?_append_left hlt, List.take_append_of_le_length (Nat.le_of_lt hlt)]
  rw [outerCommas, List.length_append, List.length_singleton, List.range_succ,
    List.countP_append, hbefore, List.countP_singleton]
  simp [hdepth]

/-! ### Reading on in a call -/

/-- Behind text that leaves `depth` parentheses open, the calls that were open before stand `depth`
further down, the innermost of them with the outer commas of the text. -/
theorem drop_openCallsFrom {depth : Nat} {cs : List Char} (h : LeavesOpen depth cs) (index : Nat)
    (calls : List OpenCall) :
    (openCallsFrom index calls cs).drop depth =
      calls.modifyHead (.addCommas (outerCommas cs)) := by
  induction cs using List.reverseRecOn generalizing depth with
  | nil =>
      obtain rfl := leavesOpen_nil_iff.mp h
      cases calls <;> rfl
  | append_singleton cs c ih =>
      rw [openCallsFrom_append, openCallsFrom, openCallsFrom]
      by_cases hopen : c = '('
      · subst c
        obtain ⟨outer, rfl, houter⟩ := leavesOpen_open_iff.mp h
        rw [drop_readCall_open, ih houter, outerCommas_concat houter]
        simp
      by_cases hclose : c = ')'
      · subst c
        have hinner := leavesOpen_close_iff.mp h
        rw [drop_readCall_close, ih hinner, outerCommas_concat hinner]
        simp
      · have hsame := (leavesOpen_other_iff hopen hclose).mp h
        rw [drop_readCall_other hopen hclose, ih hsame, outerCommas_concat hsame,
          List.modifyHead_modifyHead, OpenCall.addCommas_add, Nat.add_comm]

/-- A call that a text leaves open is a `(` of it: the text behind it leaves open as many
parentheses as there are calls further in, and the call has the outer commas of that text. -/
theorem getElem?_openCalls_eq_some_iff {cs : List Char} {depth : Nat} {call : OpenCall} :
    (openCalls cs)[depth]? = some call ↔
      ∃ before inner, cs = before ++ '(' :: inner ∧ LeavesOpen depth inner ∧
        call = ⟨before.length, outerCommas inner⟩ := by
  rw [← List.head?_drop]
  constructor
  · intro hcall
    induction cs using List.reverseRecOn generalizing depth call with
    | nil => simp [openCalls, openCallsFrom] at hcall
    | append_singleton cs c ih =>
        rw [openCalls_concat] at hcall
        by_cases hopen : c = '('
        · subst c
          cases depth with
          | zero =>
              obtain rfl : ⟨cs.length, 0⟩ = call := by simpa [readCall] using hcall
              exact ⟨cs, [], rfl, leavesOpen_nil_iff.mpr rfl, rfl⟩
          | succ depth =>
              rw [drop_readCall_open] at hcall
              obtain ⟨before, inner, rfl, hinner, rfl⟩ := ih hcall
              exact ⟨before, inner ++ ['('], by simp,
                leavesOpen_open_iff.mpr ⟨depth, rfl, hinner⟩, by simp [outerCommas_concat hinner]⟩
        by_cases hclose : c = ')'
        · subst c
          rw [drop_readCall_close] at hcall
          obtain ⟨before, inner, rfl, hinner, rfl⟩ := ih hcall
          exact ⟨before, inner ++ [')'], by simp, leavesOpen_close_iff.mpr hinner,
            by simp [outerCommas_concat hinner]⟩
        · rw [drop_readCall_other hopen hclose, List.head?_modifyHead,
            Option.map_eq_some_iff] at hcall
          obtain ⟨old, hold, rfl⟩ := hcall
          obtain ⟨before, inner, rfl, hinner, rfl⟩ := ih hold
          exact ⟨before, inner ++ [c], by simp, (leavesOpen_other_iff hopen hclose).mpr hinner,
            by simp [OpenCall.addCommas, outerCommas_concat hinner]⟩
  · rintro ⟨before, inner, rfl, hinner, rfl⟩
    rw [openCalls_append, openCallsFrom, readCall, if_pos rfl, drop_openCallsFrom hinner]
    simp [OpenCall.addCommas]

theorem openCalls_append_balanced {argument : List Char} (h : Balanced argument)
    (typed : List Char) :
    openCalls (typed ++ argument) =
      (openCalls typed).modifyHead (.addCommas (outerCommas argument)) := by
  rw [openCalls_append, ← drop_openCallsFrom h, List.drop_zero]

/-! ### The call around the cursor -/

theorem callAt?_append (front rest : List Char) :
    callAt? (front ++ rest) front.length = (openCalls front).head? := by
  rw [callAt?_eq, clampCursor]
  simp

theorem callAt?_length (typed : List Char) :
    callAt? typed typed.length = (openCalls typed).head? := by
  simpa using callAt?_append typed []

/-- The call around the end of a text is the `(` behind which all parentheses close, with the outer
commas behind it. -/
theorem callAt?_length_eq_some_iff {typed : List Char} {call : OpenCall} :
    callAt? typed typed.length = some call ↔
      ∃ before inner, typed = before ++ '(' :: inner ∧ Balanced inner ∧
        call = ⟨before.length, outerCommas inner⟩ := by
  rw [callAt?_length, List.head?_eq_getElem?, getElem?_openCalls_eq_some_iff]

theorem callAt?_append_balanced {argument : List Char} (h : Balanced argument)
    (typed rest : List Char) :
    callAt? (typed ++ argument ++ rest) (typed ++ argument).length =
      (callAt? typed typed.length).map (.addCommas (outerCommas argument)) := by
  rw [callAt?_append, openCalls_append_balanced h, List.head?_modifyHead, callAt?_length]

/-! ### The signature of the call -/

theorem nameBefore_append {front : List Char} {o : Nat} (h : o ≤ front.length)
    (rest : List Char) : nameBefore (front ++ rest) o = nameBefore front o := by
  rw [nameBefore, nameBefore, wordBefore, wordBefore, List.take_append_of_le_length h]

/-- More commas change nothing but the active parameter. -/
theorem Signature.ofMember?_addCommas {m : Member} {commas : Nat} {signature : Signature}
    (h : ofMember? m commas = some signature) (n : Nat) :
    ofMember? m (commas + n) = some { signature with
      active := activeParameter signature.params.length (commas + n) } := by
  obtain ⟨usage, husage, rfl⟩ := Option.map_eq_some_iff.mp h
  simp [ofMember?, husage]

theorem Signature.active_eq {m : Member} {commas : Nat} {signature : Signature}
    (h : ofMember? m commas = some signature) :
    signature.active = activeParameter signature.params.length commas := by
  obtain ⟨usage, _, rfl⟩ := Option.map_eq_some_iff.mp h
  rfl

theorem signaturesAt_eq_cons_iff {line : List Char} {cursor : Int} {signature : Signature}
    {others : List Signature} :
    signaturesAt line cursor = some (signature :: others) ↔
      others = [] ∧ ∃ call m, callAt? line cursor = some call ∧
        findMember? (nameBefore line call.paren) = some m ∧
        Signature.ofMember? m call.commas = some signature := by
  rw [signaturesAt, Option.map_eq_some_iff]
  constructor
  · rintro ⟨call, hcall, hsignatures⟩
    split at hsignatures
    · cases hsignatures
    · next m hm =>
        cases hs : Signature.ofMember? m call.commas with
        | none => simp [hs] at hsignatures
        | some s =>
            obtain ⟨rfl, rfl⟩ : s = signature ∧ [] = others := by simpa [hs] using hsignatures
            exact ⟨rfl, call, m, hcall, hm, hs⟩
  · rintro ⟨rfl, call, m, hcall, hm, hs⟩
    exact ⟨call, hcall, by simp [hm, hs]⟩

theorem signaturesAt_eq_none_iff {line : List Char} {cursor : Int} :
    signaturesAt line cursor = none ↔ callAt? line cursor = none := by
  rw [signaturesAt, Option.map_eq_none_iff]

/-- The active parameter is one of the parameters, or the first index if there is none. -/
theorem activeParameter_valid (count commas : Nat) :
    activeParameter count commas < count ∨ count = 0 ∧ activeParameter count commas = 0 := by
  rw [activeParameter]
  omega

/-- While an argument is typed whose parentheses close, the call around the cursor keeps its label,
documentation and parameters, and its active parameter is the number of outer commas behind the
open parenthesis, or the last one. It never moves back and is a parameter if there is any. Where no
call is open none gets open, and what stands behind the cursor never counts. -/
theorem signature_kept_while_typing (typed : List Char) :
    (∀ signature others, signaturesAt typed typed.length = some (signature :: others) →
      ∃ before inner, typed = before ++ '(' :: inner ∧ Balanced inner ∧
        callAt? typed typed.length = some ⟨before.length, outerCommas inner⟩ ∧
        ∀ argument, Balanced argument → ∀ rest,
          let count := signature.params.length
          let active := min (outerCommas inner + outerCommas argument) (count - 1)
          signaturesAt (typed ++ argument ++ rest) (typed ++ argument).length =
              some [{ signature with active := active }] ∧
            signature.active ≤ active ∧ (active < count ∨ count = 0 ∧ active = 0)) ∧
    (signaturesAt typed typed.length = none → ∀ argument, Balanced argument → ∀ rest,
      signaturesAt (typed ++ argument ++ rest) (typed ++ argument).length = none) := by
  refine ⟨fun signature others h => ?_, fun h argument hargument rest => ?_⟩
  · obtain ⟨_, call, m, hcall, hm, hs⟩ := signaturesAt_eq_cons_iff.mp h
    obtain ⟨before, inner, htyped, hinner, rfl⟩ := callAt?_length_eq_some_iff.mp hcall
    refine ⟨before, inner, htyped, hinner, hcall, fun argument hargument rest => ?_⟩
    have hparen : before.length ≤ typed.length := by simp [htyped]
    have hname : nameBefore (typed ++ argument ++ rest) before.length =
        nameBefore typed before.length := by
      rw [List.append_assoc, nameBefore_append hparen]
    have hlonger := callAt?_append_balanced hargument typed rest
    rw [hcall, Option.map_some] at hlonger
    refine ⟨signaturesAt_eq_cons_iff.mpr ⟨rfl, _, m, hlonger, ?_, ?_⟩, ?_, ?_⟩
    · rwa [OpenCall.addCommas, hname]
    · exact Signature.ofMember?_addCommas hs (outerCommas argument)
    · have hactive : signature.active = min (outerCommas inner) (signature.params.length - 1) :=
        Signature.active_eq hs
      rw [hactive]
      omega
    · exact activeParameter_valid _ _
  · rw [signaturesAt_eq_none_iff] at h ⊢
    rw [callAt?_append_balanced hargument, h, Option.map_none]

/-- A call in its second argument, behind a closed call in its first one. -/
def effectCall : List Char := "@a.effect(id(x, y), ".toList

/-- An argument with a call in it, and the comma behind it. -/
def nestedArgument : List Char := "f(z, 2), ".toList

theorem effectCall_kept_while_typing :
    Balanced nestedArgument ∧
    (∃ signature, signaturesAt effectCall effectCall.length = some [signature] ∧
      signaturesAt (effectCall ++ nestedArgument ++ ['w', ')'])
        (effectCall ++ nestedArgument).length = some [{ signature with active := 2 }]) ∧
    signaturesAt ['f', ')'] 2 = none ∧
      signaturesAt (['f', ')'] ++ nestedArgument ++ ['('])
        (['f', ')'] ++ nestedArgument).length = none := by
  have hargument : Balanced nestedArgument := by decide
  have hclosed : signaturesAt ['f', ')'] 2 = none := by decide +kernel
  have hcounts : (signaturesAt effectCall effectCall.length).map (·.map (·.params.length)) =
      some [4] := by decide +kernel
  obtain ⟨signatures, hsignatures, hlengths⟩ := Option.map_eq_some_iff.mp hcounts
  obtain ⟨signature, rfl, hlength⟩ := List.map_eq_singleton_iff.mp hlengths
  refine ⟨hargument, ⟨signature, hsignatures, ?_⟩, hclosed,
    (signature_kept_while_typing _).2 hclosed _ hargument _⟩
  obtain ⟨before, inner, _, _, hcall, hkept⟩ :=
    (signature_kept_while_typing effectCall).1 signature [] hsignatures
  have hfound : callAt? effectCall effectCall.length = some ⟨9, 1⟩ := by decide
  have hcommas : outerCommas inner = 1 := by
    rw [hfound] at hcall
    exact (OpenCall.mk.inj (Option.some.inj hcall)).2.symm
  have htyped : outerCommas nestedArgument = 1 := by decide
  obtain ⟨hsignature, _⟩ := hkept nestedArgument hargument ['w', ')']
  rwa [hcommas, htyped, hlength] at hsignature

end Datapack.Selector
