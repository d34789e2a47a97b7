import Datapack.Proofs.NormalPaths
import Datapack.Settings.Override

/-! The fields of settings, one by one. The check of a field looks at nothing but the value that is
given for it, and sets nothing but the field. What a check has given can be written as a value that
the same check reads as it was. -/

namespace Datapack

open Json Checked

namespace SettingsField

/-- What a field holds. -/
def Value : SettingsField → Type
  | java | serverJar | batchJar | reportFile | outputSubdir | logLevel => String
  | compilerDir => Path
  | mode => CompilerMode
  | commandTimeout | compileTimeout => Float
  | serverArgv | batchArgv => Option (List String)

def get (s : Settings) : (f : SettingsField) → f.Value
  | java => s.java
  | compilerDir => s.compilerDir
  | serverJar => s.serverJar
  | batchJar => s.batchJar
  | reportFile => s.reportFile
  | mode => s.mode
  | outputSubdir => s.outputSubdir
  | commandTimeout => s.commandTimeout
  | compileTimeout => s.compileTimeout
  | logLevel => s.logLevel
  | serverArgv => s.serverArgv
  | batchArgv => s.batchArgv

def set (s : Settings) : (f : SettingsField) → f.Value → Settings
  | java, v => { s with java := v }
  | compilerDir, v => { s with compilerDir := v }
  | serverJar, v => { s with serverJar := v }
  | batchJar, v => { s with batchJar := v }
  | reportFile, v => { s with reportFile := v }
  | mode, v => { s with mode := v }
  | outputSubdir, v => { s with outputSubdir := v }
  | commandTimeout, v => { s with commandTimeout := v }
  | compileTimeout, v => { s with compileTimeout := v }
  | logLevel, v => { s with logLevel := v }
  | serverArgv, v => { s with serverArgv := v }
  | batchArgv, v => { s with batchArgv := v }

/-- The check of a field, on its own. -/
def check : (f : SettingsField) → Json → Checked f.Value
  | java | serverJar | batchJar | reportFile | outputSubdir | logLevel => asString
  | compilerDir => asPath
  | mode => CompilerMode.check
  | commandTimeout | compileTimeout => asPositive
  | serverArgv | batchArgv => asStrings?

/-- Words as a value that reads as them. -/
def writtenWords : Option (List String) → Json
  | none => .null
  | some words => .arr (words.map .str)

/-- What a field holds, as a value that reads as it. -/
def written : (f : SettingsField) → f.Value → Json
  | java | serverJar | batchJar | reportFile | outputSubdir | logLevel => Json.str
  | compilerDir => fun p => .str p.toText
  | mode => fun m => .str m.name
  | commandTimeout | compileTimeout => Json.float
  | serverArgv | batchArgv => writtenWords

/-! ### Reading and setting -/

theorem get_set (s : Settings) (f : SettingsField) (v : f.Value) : f.get (f.set s v) = v := by
  cases f <;> rfl

theorem get_set_of_ne {f g : SettingsField} (h : g ≠ f) (s : Settings) (v : f.Value) :
    g.get (f.set s v) = g.get s := by
  cases f <;> cases g <;> first | rfl | exact absurd rfl h

theorem ext {s t : Settings} (h : ∀ f : SettingsField, f.get s = f.get t) : s = t := by
  cases s
  cases t
  rw [Settings.mk.injEq]
  exact ⟨h java, h compilerDir, h serverJar, h batchJar, h reportFile, h mode, h outputSubdir,
    h commandTimeout, h compileTimeout, h logLevel, h serverArgv, h batchArgv⟩

theorem mem_all (f : SettingsField) : f ∈ all := by cases f <;> decide

theorem nodup_all : all.Nodup := by decide

theorem assign_eq (f : SettingsField) (j : Json) (s : Settings) :
    f.assign j s = (f.check j).map (f.set s) := by
  cases f <;> rfl

/-! ### Names -/

/-- The two spellings of a field's name. -/
def IsNamed (f : SettingsField) (key : String) : Prop := key = f.camel ∨ key = f.snake

theorem ofKey?_eq_some_iff {f : SettingsField} {key : String} :
    ofKey? key = some f ↔ f.IsNamed key := by
  constructor
  · intro h
    have hkey := List.find?_some h
    rw [Bool.or_eq_true, beq_iff_eq, beq_iff_eq] at hkey
    exact hkey.imp Eq.symm Eq.symm
  · rintro (rfl | rfl)
    · cases f <;> decide
    · cases f <;> decide

/-! ### Checking what was written -/

theorem each_str (i : Nat) (words : List String) :
    each asString i (words.map .str) = .ok words := by
  induction words generalizing i with
  | nil => rfl
  | cons word words ih =>
      rw [List.map_cons, each, ih]
      rfl

theorem check_writtenWords (words : Option (List String)) :
    asStrings? (writtenWords words) = .ok words := by
  cases words with
  | none => rfl
  | some words => exact congrArg (Except.map some) (each_str 0 words)

theorem asPositive_float {x : Float} (h : 0.0 < x) : asPositive (.float x) = .ok x := if_pos h

theorem zero_lt_of_asPositive {j : Json} {x : Float} (h : asPositive j = .ok x) : 0.0 < x := by
  unfold asPositive at h
  split at h
  · split at h
    · next hlt => cases h; exact hlt
    · cases h
  · cases h

/-- What a check has given is read as it was: a path is in its normal form, and a number is still
above zero. -/
theorem check_written {f : SettingsField} {j : Json} {v : f.Value} (h : f.check j = .ok v) :
    f.check (f.written v) = .ok v := by
  have hpath {j : Json} {p : Path} (h : asPath j = .ok p) : asPath (.str p.toText) = .ok p := by
    cases j with
    | str s =>
        cases h
        exact congrArg Except.ok (Path.ofString_toText_ofString s)
    | _ => cases h
  cases f with
  | java | serverJar | batchJar | reportFile | outputSubdir | logLevel => rfl
  | compilerDir => exact hpath h
  | mode => cases v <;> rfl
  | commandTimeout | compileTimeout => exact asPositive_float (zero_lt_of_asPositive h)
  | serverArgv | batchArgv => exact check_writtenWords v

end SettingsField

end Datapack
