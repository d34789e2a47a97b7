import Datapack.Settings.Basic

/-! Settings from the outside: field by field, under either of two spellings of a field's name, and
from environment variables. -/

namespace Datapack

open Json Checked

/-- The fields of the settings, in their order. -/
inductive SettingsField where
  | java
  | compilerDir
  | serverJar
  | batchJar
  | reportFile
  | mode
  | outputSubdir
  | commandTimeout
  | compileTimeout
  | logLevel
  | serverArgv
  | batchArgv
deriving DecidableEq, Repr

namespace SettingsField

def all : List SettingsField :=
  [java, compilerDir, serverJar, batchJar, reportFile, mode, outputSubdir, commandTimeout,
   compileTimeout, logLevel, serverArgv, batchArgv]

/-- The field's name, with underscores. -/
def snake : SettingsField → String
  | java => "java"
  | compilerDir => "compiler_dir"
  | serverJar => "server_jar"
  | batchJar => "batch_jar"
  | reportFile => "report_file"
  | mode => "mode"
  | outputSubdir => "output_subdir"
  | commandTimeout => "command_timeout"
  | compileTimeout => "compile_timeout"
  | logLevel => "log_level"
  | serverArgv => "server_argv"
  | batchArgv => "batch_argv"

/-- The field's name as editors send it, with inner capitals. -/
def camel : SettingsField → String
  | java => "java"
  | compilerDir => "compilerDir"
  | serverJar => "serverJar"
  | batchJar => "batchJar"
  | reportFile => "reportFile"
  | mode => "mode"
  | outputSubdir => "outputSubdir"
  | commandTimeout => "commandTimeout"
  | compileTimeout => "compileTimeout"
  | logLevel => "logLevel"
  | serverArgv => "serverArgv"
  | batchArgv => "batchArgv"

/-- The field a key names, in either spelling. -/
def ofKey? (key : String) : Option SettingsField :=
  all.find? fun f => f.camel == key || f.snake == key

/-- Sets one field from a value, if the value fits. -/
def assign (f : SettingsField) (j : Json) (s : Settings) : Checked Settings :=
  match f with
  | java => j.asString.map fun v => { s with java := v }
  | compilerDir => j.asPath.map fun v => { s with compilerDir := v }
  | serverJar => j.asString.map fun v => { s with serverJar := v }
  | batchJar => j.asString.map fun v => { s with batchJar := v }
  | reportFile => j.asString.map fun v => { s with reportFile := v }
  | mode => (CompilerMode.check j).map fun v => { s with mode := v }
  | outputSubdir => j.asString.map fun v => { s with outputSubdir := v }
  | commandTimeout => j.asPositive.map fun v => { s with commandTimeout := v }
  | compileTimeout => j.asPositive.map fun v => { s with compileTimeout := v }
  | logLevel => j.asString.map fun v => { s with logLevel := v }
  | serverArgv => j.asStrings?.map fun v => { s with serverArgv := v }
  | batchArgv => j.asStrings?.map fun v => { s with batchArgv := v }

end SettingsField

namespace Settings

/-- A value for a field, and the key that complaints about it name. -/
structure Given where
  field : SettingsField
  key : String
  value : Json

/-- Assigns values one after the other; if some do not fit, the complaints about all of them. -/
def assignAll : List Given → Settings → Checked Settings
  | [], s => .ok s
  | g :: rest, s =>
    match (g.field.assign g.value s).under (.field g.key) with
    | .ok t => assignAll rest t
    | .error issues =>
      match assignAll rest s with
      | .ok _ => .error issues
      | .error more => .error (issues ++ more)

/-- What data give for a field. The spelling of editors wins over the other one. -/
def givenFor? (fields : List (String × Json)) (f : SettingsField) : Option Given :=
  match fields.lookup f.camel with
  | some j => some ⟨f, f.camel, j⟩
  | none => (fields.lookup f.snake).map fun j => ⟨f, f.snake, j⟩

/-- Settings from data; fields that are not given have their defaults. -/
def ofJson (j : Json) : Checked Settings := do
  let fields ← j.asFields "Settings" false
  assignAll (SettingsField.all.filterMap (givenFor? fields)) default

/-- The last value that options give for a field, under either spelling. -/
def lastFor? (options : List (String × Json)) (f : SettingsField) : Option Given :=
  (options.reverse.find? fun o => SettingsField.ofKey? o.1 == some f).map fun o => ⟨f, f.snake, o.2⟩

/-- The values that options give, in the order of the fields. -/
def updates (options : List (String × Json)) : List Given :=
  SettingsField.all.filterMap (lastFor? options)

/-- Settings changed by options. Unknown keys are ignored. -/
def overriddenBy (s : Settings) (options : List (String × Json)) : Checked Settings :=
  assignAll (updates options) s

/-- Whether options name a field at all. -/
def changes (options : List (String × Json)) : Bool := !(updates options).isEmpty

/-- The environment variable of a field. The launchers' words have none. -/
def environmentKey? (f : SettingsField) : Option String :=
  match f with
  | .serverArgv | .batchArgv => none
  | _ => some ("DPSCRIPT_" ++ f.snake.map Char.toUpper)

/-- Settings from environment variables. -/
def ofEnvironment (env : List (String × String)) : Checked Settings :=
  let given := SettingsField.all.filterMap fun f => do
    let raw ← env.lookup (← environmentKey? f)
    return (⟨f, f.snake, .str raw⟩ : Given)
  assignAll given default

end Settings

end Datapack
