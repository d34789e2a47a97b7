import Datapack.Validation

/-! Settings: how compilers are launched, how long they may take, and what is logged. -/

namespace Datapack

open Json Checked

/-- How the compiler is used: as one process that stays, or as one process per compile. -/
inductive CompilerMode where
  | persistent
  | batch
deriving DecidableEq, Repr

namespace CompilerMode

def name : CompilerMode → String
  | persistent => "persistent"
  | batch => "batch"

def check : Json → Checked CompilerMode
  | .str s =>
    if s = persistent.name then .ok persistent
    else if s = batch.name then .ok batch
    else fail .unknownMode
  | _ => fail .unknownMode

end CompilerMode

structure Settings where
  java : String
  compilerDir : Path
  serverJar : String
  batchJar : String
  reportFile : String
  mode : CompilerMode
  outputSubdir : String
  commandTimeout : Float
  compileTimeout : Float
  logLevel : String
  serverArgv : Option (List String)
  batchArgv : Option (List String)

namespace Settings

def default : Settings :=
  { java := "java"
    compilerDir := Path.rootDirectory
    serverJar := "DPScriptServer.jar"
    batchJar := "DPScript.jar"
    reportFile := "compilerOutput.json"
    mode := .persistent
    outputSubdir := "ignore/out"
    commandTimeout := 10.0
    compileTimeout := 120.0
    logLevel := "INFO"
    serverArgv := none
    batchArgv := none }

/-- Where a one-shot compile leaves its report. -/
def reportPath (s : Settings) : Path := s.compilerDir.child s.reportFile

/-- The launcher's own words, or `java -jar` and the jar. -/
def launcher (s : Settings) (own : Option (List String)) (jar : String) : List String :=
  match own with
  | some (word :: words) => word :: words
  | _ => [s.java, "-jar", (s.compilerDir.child jar).toText]

/-- The command line of the compiler that stays, for a workspace root. -/
def residentCommand (s : Settings) (root : String) : List String :=
  s.launcher s.serverArgv s.serverJar ++ [root]

/-- The command line of one compile of a folder. -/
def oneShotCommand (s : Settings) (folder : String) : List String :=
  s.launcher s.batchArgv s.batchJar ++ [folder]

end Settings

end Datapack
