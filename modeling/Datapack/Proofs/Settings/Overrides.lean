import Datapack.Proofs.Settings.Fields

/-! Settings that are changed by options. Every field comes to what its check gives for the last
value that the options name it with, or stays what it was; the complaints are those of the fields,
each about its own value. So what options do to settings can be told field by field, and options
after others do the same as both at once. -/

namespace Datapack

open Json Checked

/-- Options in the order in which they were given. -/
abbrev Options := List (String × Json)

/-- The options of two mappings as one: keys that both have stand where the second has them. -/
def Options.followedBy (first second : Options) : Options :=
  first.filter (fun o => o.1 ∉ second.map (·.1)) ++ second

/-! ### The value that options give for a field -/

namespace SettingsField

/-- Options give a value for a field, and none for it after that. -/
def LastGiven (f : SettingsField) (options : Options) (j : Json) : Prop :=
  ∃ front key back, options = front ++ (key, j) :: back ∧ f.IsNamed key ∧
    ∀ o ∈ back, ¬f.IsNamed o.1

/-- No option names a field. -/
def IsUnnamed (f : SettingsField) (options : Options) : Prop := ∀ o ∈ options, ¬f.IsNamed o.1

/-- The value that options give for a field last. -/
def last? (f : SettingsField) (options : Options) : Option Json :=
  (Settings.lastFor? options f).map (·.value)

theorem last?_append (f : SettingsField) (first second : Options) :
    f.last? (first ++ second) = (f.last? second).or (f.last? first) := by
  rw [last?, last?, last?, Settings.lastFor?, List.reverse_append, List.find?_append,
    Option.map_or, Option.map_or]
  rfl

theorem last?_eq_none_iff {f : SettingsField} {options : Options} :
    f.last? options = none ↔ f.IsUnnamed options := by
  simp [last?, Settings.lastFor?, IsUnnamed, ofKey?_eq_some_iff]

theorem last?_eq_some_iff {f : SettingsField} {options : Options} {j : Json} :
    f.last? options = some j ↔ f.LastGiven options j := by
  simp only [last?, Settings.lastFor?, Option.map_map, Option.map_eq_some_iff,
    List.find?_eq_some_iff_append, beq_iff_eq, ofKey?_eq_some_iff, Function.comp_apply]
  constructor
  · rintro ⟨⟨key, j⟩, ⟨hnamed, back, front, hoptions, hback⟩, rfl⟩
    refine ⟨front.reverse, key, back.reverse, ?_, hnamed, fun o ho => ?_⟩
    · have hreversed := congrArg List.reverse hoptions
      simpa using hreversed
    · simpa [ofKey?_eq_some_iff] using hback o (List.mem_reverse.mp ho)
  · rintro ⟨front, key, back, rfl, hnamed, hback⟩
    refine ⟨(key, j), ⟨hnamed, back.reverse, front.reverse, by simp, fun o ho => ?_⟩, rfl⟩
    simpa [ofKey?_eq_some_iff] using hback o (List.mem_reverse.mp ho)

/-- Only keys are dropped that the second options have, so these give the value for what such keys
name. -/
theorem last?_followedBy (f : SettingsField) (first second : Options) :
    f.last? (first.followedBy second) = f.last? (first ++ second) := by
  rw [Options.followedBy, last?_append, last?_append]
  cases hsecond : f.last? second with
  | some j => rfl
  | none =>
      have hunnamed := last?_eq_none_iff.mp hsecond
      have hkept (o : String × Json) :
          decide (o.1 ∉ second.map (·.1)) = true ∧ (ofKey? o.1 == some f) = true ↔
            (ofKey? o.1 == some f) = true := by
        rw [and_iff_right_iff_imp, decide_eq_true_eq, beq_iff_eq, ofKey?_eq_some_iff]
        intro hnamed hmem
        obtain ⟨o', ho', hkey⟩ := List.mem_map.mp hmem
        exact hunnamed o' ho' (hkey ▸ hnamed)
      simp only [Option.none_or, last?, Settings.lastFor?, ← List.filter_reverse,
        List.find?_filter, hkept, Bool.decide_eq_true]

/-- What a field comes to: what its check gives for a value, or what it was. -/
def Follows (f : SettingsField) (given : Option Json) (s t : Settings) : Prop :=
  match given with
  | some j => f.check j = .ok (f.get t)
  | none => f.get t = f.get s

/-- The complaints about the value for a field, under its name. -/
def complaints (f : SettingsField) (given : Option Json) : List Issue :=
  match given.map f.check with
  | some (.error issues) => issues.map (·.within (.field f.snake))
  | _ => []

/-- The value for a field does not fit. -/
def Refuses (f : SettingsField) (given : Option Json) : Prop :=
  ∃ j issues, given = some j ∧ f.check j = .error issues

theorem complaints_of_not_refuses {f : SettingsField} {given : Option Json}
    (h : ¬f.Refuses given) : f.complaints given = [] := by
  cases given with
  | none => rfl
  | some j =>
      cases hcheck : f.check j with
      | ok v => simp [complaints, hcheck]
      | error issues => exact absurd ⟨j, issues, rfl, hcheck⟩ h

end SettingsField

namespace Settings

open SettingsField

/-- Values for some of the fields. -/
def given (values : SettingsField → Option Json) (fs : List SettingsField) : List Given :=
  fs.filterMap fun f => (values f).map fun j => ⟨f, f.snake, j⟩

variable {values : SettingsField → Option Json} {f : SettingsField} {fs : List SettingsField}
  {s t : Settings}

theorem given_cons_none (h : values f = none) : given values (f :: fs) = given values fs := by
  simp [given, h]

theorem assignAll_of_ok {j : Json} {v : f.Value} (hvalue : values f = some j)
    (hcheck : f.check j = .ok v) (s : Settings) :
    assignAll (given values (f :: fs)) s = assignAll (given values fs) (f.set s v) := by
  have hgiven : given values (f :: fs) = ⟨f, f.snake, j⟩ :: given values fs := by
    simp [given, hvalue]
  simp [hgiven, assignAll, assign_eq, hcheck, Except.map, under]

theorem assignAll_of_error {j : Json} {issues : List Issue} (hvalue : values f = some j)
    (hcheck : f.check j = .error issues) (s : Settings) :
    assignAll (given values (f :: fs)) s =
      .error (issues.map (·.within (.field f.snake)) ++
        match assignAll (given values fs) s with
        | .ok _ => []
        | .error more => more) := by
  have hgiven : given values (f :: fs) = ⟨f, f.snake, j⟩ :: given values fs := by
    simp [given, hvalue]
  cases hrest : assignAll (given values fs) s <;>
    simp [hgiven, assignAll, assign_eq, hcheck, Except.map, under, hrest]

/-- Fields come to what they are given, whichever of them are. -/
theorem assignAll_eq_ok_iff (hfs : fs.Nodup) :
    assignAll (given values fs) s = .ok t ↔
      ∀ f : SettingsField, f.Follows (if f ∈ fs then values f else none) s t := by
  induction fs generalizing s with
  | nil =>
      have hext : s = t ↔ ∀ f : SettingsField, f.get t = f.get s :=
        ⟨fun heq f => by rw [heq], fun h => SettingsField.ext fun f => (h f).symm⟩
      simpa [given, assignAll, Follows] using hext
  | cons f fs ih =>
      obtain ⟨hf, hfs⟩ := List.nodup_cons.mp hfs
      cases hvalue : values f with
      | none =>
          rw [given_cons_none hvalue, ih hfs]
          refine forall_congr' fun g => ?_
          by_cases hg : g = f
          · simp [hg, hvalue, hf]
          · simp [hg]
      | some j =>
          cases hcheck : f.check j with
          | error issues =>
              rw [assignAll_of_error hvalue hcheck]
              refine iff_of_false (by simp) fun h => ?_
              have hf := h f
              simp [Follows, hvalue, hcheck] at hf
          | ok v =>
              rw [assignAll_of_ok hvalue hcheck, ih hfs]
              refine forall_congr' fun g => ?_
              by_cases hg : g = f
              · subst hg
                simp [Follows, hf, hvalue, hcheck, get_set, eq_comm]
              · simp [hg, Follows, get_set_of_ne hg]

/-- If one of the values does not fit, the complaints are those about all of them, in the order of
the fields. -/
theorem assignAll_cases (values : SettingsField → Option Json) (fs : List SettingsField)
    (s : Settings) :
    (∀ f ∈ fs, ¬f.Refuses (values f)) ∧ (∃ t, assignAll (given values fs) s = .ok t) ∨
      (∃ f ∈ fs, f.Refuses (values f)) ∧
        assignAll (given values fs) s = .error (fs.flatMap fun f => f.complaints (values f)) := by
  induction fs generalizing s with
  | nil => exact .inl ⟨by simp, s, rfl⟩
  | cons f fs ih =>
      simp only [List.mem_cons, forall_eq_or_imp, exists_eq_or_imp, List.flatMap_cons]
      cases hvalue : values f with
      | none =>
          rw [given_cons_none hvalue]
          simpa [Refuses, complaints] using ih s
      | some j =>
          cases hcheck : f.check j with
          | ok v =>
              rw [assignAll_of_ok hvalue hcheck]
              simpa [Refuses, complaints, hcheck] using ih (f.set s v)
          | error issues =>
              have hrefuses : f.Refuses (some j) := ⟨j, issues, rfl, hcheck⟩
              have hown : f.complaints (some j) = issues.map (·.within (.field f.snake)) := by
                simp [complaints, hcheck]
              refine .inr ⟨.inl hrefuses, ?_⟩
              rw [assignAll_of_error hvalue hcheck, hown]
              rcases ih s with ⟨hnone, t, ht⟩ | ⟨_, herror⟩
              · have hrest : (fs.flatMap fun f => f.complaints (values f)) = [] :=
                  List.flatMap_eq_nil_iff.mpr fun f hf => complaints_of_not_refuses (hnone f hf)
                rw [ht, hrest]
              · rw [herror]

/-! ### Valid settings -/

/-- Settings are valid if there are data that they are read from. -/
def IsValid (s : Settings) : Prop := ∃ data, ofJson data = .ok s

/-- The value of every field after options, as data: the last one that they give for it, or what it
was. -/
def mergedData (s : Settings) (options : Options) : Json :=
  .obj (SettingsField.all.map fun f => (f.snake, (f.last? options).getD (f.written (f.get s))))

theorem overriddenBy_eq (s : Settings) (options : Options) :
    s.overriddenBy options = assignAll (given (·.last? options) SettingsField.all) s := by
  have hlast : lastFor? options =
      fun f => (f.last? options).map fun j => (⟨f, f.snake, j⟩ : Given) := by
    funext f
    rw [last?, lastFor?, Option.map_map, Option.map_map]
    rfl
  rw [overriddenBy, updates, given, hlast]

theorem overriddenBy_eq_ok_iff {options : Options} :
    s.overriddenBy options = .ok t ↔ ∀ f : SettingsField, f.Follows (f.last? options) s t := by
  simp [overriddenBy_eq, assignAll_eq_ok_iff nodup_all, mem_all]

theorem givenFor?_map (value : SettingsField → Json) (f : SettingsField) :
    givenFor? (SettingsField.all.map fun g => (g.snake, value g)) f = some ⟨f, f.snake, value f⟩ := by
  cases f <;> rfl

theorem ofJson_map (value : SettingsField → Json) :
    ofJson (.obj (SettingsField.all.map fun f => (f.snake, value f))) =
      assignAll (given (fun f => some (value f)) SettingsField.all) default := by
  have hgiven := funext (givenFor?_map value)
  simp only [ofJson, asFields, bind, Except.bind, hgiven, given, Option.map_some]

/-- Whatever was assigned, all fields hold what their checks have given if they did before. -/
theorem exists_check_of_assignAll {gs : List Given}
    (hs : ∀ f : SettingsField, ∃ j, f.check j = .ok (f.get s)) (h : assignAll gs s = .ok t)
    (f : SettingsField) : ∃ j, f.check j = .ok (f.get t) := by
  induction gs generalizing s with
  | nil =>
      cases h
      exact hs f
  | cons g gs ih =>
      rw [assignAll, assign_eq] at h
      cases hcheck : g.field.check g.value with
      | error issues =>
          simp only [hcheck, Except.map, under] at h
          split at h <;> cases h
      | ok v =>
          rw [hcheck] at h
          refine ih (s := g.field.set s v) (fun f' => ?_) h
          by_cases hf' : f' = g.field
          · subst hf'
            exact ⟨g.value, by rw [get_set, hcheck]⟩
          · rw [get_set_of_ne hf']
            exact hs f'

theorem exists_check_default (f : SettingsField) : ∃ j, f.check j = .ok (f.get default) := by
  refine ⟨f.written (f.get default), ?_⟩
  cases f with
  | commandTimeout => exact asPositive_float (x := 10.0) (by decide)
  | compileTimeout => exact asPositive_float (x := 120.0) (by decide)
  | _ => rfl

theorem IsValid.exists_check (hs : s.IsValid) (f : SettingsField) :
    ∃ j, f.check j = .ok (f.get s) := by
  obtain ⟨data, hdata⟩ := hs
  cases data with
  | obj fields => exact exists_check_of_assignAll exists_check_default hdata f
  | _ => cases hdata

/-- Reading anew what valid settings hold changes nothing. -/
theorem IsValid.check_written (hs : s.IsValid) (f : SettingsField) :
    f.check (f.written (f.get s)) = .ok (f.get s) := by
  obtain ⟨j, hj⟩ := hs.exists_check f
  exact SettingsField.check_written hj

section

variable (hs : s.IsValid) (options : Options) (f : SettingsField)

include hs

theorem IsValid.follows_merged_iff (t₀ : Settings) :
    f.Follows (some ((f.last? options).getD (f.written (f.get s)))) t₀ t ↔
      f.Follows (f.last? options) s t := by
  cases f.last? options with
  | none => simp [Follows, hs.check_written f, eq_comm]
  | some j => rfl

theorem IsValid.complaints_merged :
    f.complaints (some ((f.last? options).getD (f.written (f.get s)))) =
      f.complaints (f.last? options) := by
  cases f.last? options with
  | none => simp [complaints, hs.check_written f]
  | some j => rfl

theorem IsValid.refuses_merged_iff :
    f.Refuses (some ((f.last? options).getD (f.written (f.get s)))) ↔
      f.Refuses (f.last? options) := by
  cases f.last? options with
  | none => simp [Refuses, hs.check_written f]
  | some j => rfl

/-- Options do the same to valid settings as reading all their fields anew, with the values of the
options for those that they name. -/
theorem IsValid.overriddenBy_eq_ofJson :
    s.overriddenBy options = ofJson (s.mergedData options) := by
  have hmerged : ofJson (s.mergedData options) = assignAll
      (given (fun f => some ((f.last? options).getD (f.written (f.get s)))) SettingsField.all)
      default := ofJson_map _
  rw [hmerged, overriddenBy_eq]
  rcases assignAll_cases (·.last? options) SettingsField.all s with ⟨_, t, ht⟩ | ⟨hrefuses, herror⟩
  · rw [ht, eq_comm, assignAll_eq_ok_iff nodup_all]
    rw [assignAll_eq_ok_iff nodup_all] at ht
    intro f
    have hf := ht f
    rw [if_pos (mem_all f)] at hf ⊢
    exact (hs.follows_merged_iff options f default).mpr hf
  · rcases assignAll_cases (fun f => some ((f.last? options).getD (f.written (f.get s))))
      SettingsField.all default with ⟨hnone, _⟩ | ⟨_, herror'⟩
    · obtain ⟨f, hf, hf'⟩ := hrefuses
      exact absurd ((hs.refuses_merged_iff options f).mpr hf') (hnone f hf)
    · rw [herror, herror']
      simp only [hs.complaints_merged]

end

theorem IsValid.overriddenBy (hs : s.IsValid) {options : Options}
    (h : s.overriddenBy options = .ok t) : t.IsValid :=
  ⟨_, (hs.overriddenBy_eq_ofJson options).symm.trans h⟩

/-! ### Options after options -/

theorem overriddenBy_append {first second : Options} {u : Settings}
    (hfirst : s.overriddenBy first = .ok t) (hsecond : t.overriddenBy second = .ok u)
    {both : Options} (hboth : ∀ f : SettingsField, f.last? both = f.last? (first ++ second)) :
    s.overriddenBy both = .ok u := by
  rw [overriddenBy_eq_ok_iff] at hfirst hsecond ⊢
  intro f
  have hf := hfirst f
  have hf' := hsecond f
  rw [hboth f, last?_append]
  cases hlast : f.last? second with
  | some j =>
      rw [hlast] at hf'
      exact hf'
  | none =>
      rw [hlast] at hf'
      have hkept : f.get u = f.get t := hf'
      rw [Option.none_or]
      unfold Follows at hf ⊢
      rwa [hkept]

theorem overriddenBy_self {options : Options} (h : s.overriddenBy options = .ok t) :
    t.overriddenBy options = .ok t := by
  rw [overriddenBy_eq_ok_iff] at h ⊢
  intro f
  have hf := h f
  cases hlast : f.last? options with
  | none => rfl
  | some j =>
      rw [hlast] at hf
      exact hf

/-- Options change valid settings as if all fields were read anew. They are refused exactly if the
last value for some field does not pass the check of that field, with the complaints of all fields;
else every field that they name is what its check gives for the last value, and every other one is
as it was. The same options once more change nothing, and options after others come to what both
give at once, in one list or as one mapping. -/
theorem options_compose (hs : s.IsValid) :
    (∀ options, s.overriddenBy options = ofJson (s.mergedData options)) ∧
    (∀ options issues, s.overriddenBy options = .error issues ↔
      (∃ (f : SettingsField) (j : Json) (own : List Issue), f.LastGiven options j ∧ f.check j = .error own) ∧
        issues = SettingsField.all.flatMap fun f => f.complaints (f.last? options)) ∧
    (∀ options t, s.overriddenBy options = .ok t →
      t.IsValid ∧ t.overriddenBy options = .ok t ∧
      (∀ (f : SettingsField) j, f.LastGiven options j → f.check j = .ok (f.get t)) ∧
      ∀ f : SettingsField, f.IsUnnamed options → f.get t = f.get s) ∧
    ∀ first second t u, s.overriddenBy first = .ok t → t.overriddenBy second = .ok u →
      s.overriddenBy (first ++ second) = .ok u ∧
        s.overriddenBy (Options.followedBy first second) = .ok u := by
  refine ⟨hs.overriddenBy_eq_ofJson, fun options issues => ?_, fun options t ht => ?_, ?_⟩
  · have hrefuses : (∃ (f : SettingsField) (j : Json) (own : List Issue),
          f.LastGiven options j ∧ f.check j = .error own) ↔
        ∃ f ∈ SettingsField.all, f.Refuses (f.last? options) := by
      simp [Refuses, last?_eq_some_iff, mem_all]
    rw [hrefuses, overriddenBy_eq]
    rcases assignAll_cases (·.last? options) SettingsField.all s with
      ⟨hnone, t, ht⟩ | ⟨hsome, herror⟩
    · rw [ht]
      exact iff_of_false (by simp) fun h => h.1.elim fun f hf => hnone f hf.1 hf.2
    · rw [herror, Except.error.injEq, and_iff_right hsome, eq_comm]
  · have hfollows := overriddenBy_eq_ok_iff.mp ht
    refine ⟨hs.overriddenBy ht, overriddenBy_self ht, fun f j hj => ?_, fun f hf => ?_⟩
    · have h := hfollows f
      rwa [last?_eq_some_iff.mpr hj] at h
    · have h := hfollows f
      rwa [last?_eq_none_iff.mpr hf] at h
  · intro first second t u ht hu
    exact ⟨overriddenBy_append ht hu fun _ => rfl,
      overriddenBy_append ht hu fun f => last?_followedBy f first second⟩

/-- Options in both spellings of a name, with a text and a truth value for a number, and with a key
that names no field. -/
def someOptions : Options :=
  [("command_timeout", .str "5e-1 "), ("theme", .null), ("mode", .str "batch"),
    ("commandTimeout", .bool true)]

def moreOptions : Options := [("compileTimeout", .str "2_5"), ("command_timeout", .int 7)]

/-- The default settings take the one options after the other ones as they take both at once, and
refuse a last value that does not fit though the one before it does. -/
theorem options_compose_default :
    let once : Settings := { default with mode := .batch, commandTimeout := 1.0 }
    let twice : Settings := { once with commandTimeout := 7.0, compileTimeout := 25.0 }
    IsValid default ∧ default.overriddenBy someOptions = .ok once ∧
      once.overriddenBy moreOptions = .ok twice ∧
      default.overriddenBy (someOptions ++ moreOptions) = .ok twice ∧
      default.overriddenBy [("commandTimeout", .int 5), ("command_timeout", .int 0)] =
        .error [⟨.notPositive, [.field "command_timeout"]⟩] := by
  intro once twice
  have hvalid : IsValid default := ⟨.obj [], rfl⟩
  have hsome : default.overriddenBy someOptions = .ok once := by rfl
  have hmore : once.overriddenBy moreOptions = .ok twice := by rfl
  obtain ⟨_, hrefused, _, hboth⟩ := options_compose hvalid
  refine ⟨hvalid, hsome, hmore, (hboth _ _ _ _ hsome hmore).1, ?_⟩
  refine (hrefused _ _).mpr ⟨⟨.commandTimeout, .int 0, [⟨.notPositive, []⟩], ?_, rfl⟩, rfl⟩
  exact ⟨[("commandTimeout", .int 5)], "command_timeout", [], rfl, .inr rfl, by simp⟩

end Settings

end Datapack
