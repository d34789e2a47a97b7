import Datapack.Validation

/-! Command lines: options and positional arguments, and the four commands they make up. -/

namespace Datapack.CommandLine

open Text

/-- What an option does. -/
inductive OptionAction where
  /-- Takes the next argument, or what follows its equals sign. -/
  | value (key : String)
  | switch (key : String) (on : Bool)
  | help
  /-- Shows or installs the completion of command lines in a shell. -/
  | completion
deriving DecidableEq, Repr

/-- The options of a command, by their names with two dashes. -/
abbrev OptionTable := List (String × OptionAction)

/-- A command line taken apart. Of repeated options the last one stands first. -/
structure Arguments where
  help : Bool := false
  completion : Bool := false
  values : List (String × String) := []
  switches : List (String × Bool) := []
  positional : List String := []
deriving DecidableEq, Repr

namespace Arguments

def addPositional (a : Arguments) (arg : String) : Arguments :=
  { a with positional := a.positional ++ [arg] }

def addValue (a : Arguments) (key value : String) : Arguments :=
  { a with values := (key, value) :: a.values }

end Arguments

/-- Whether an argument has the form of an option. -/
def isOptionLike (arg : String) : Bool :=
  match arg.toList with
  | '-' :: _ :: _ => true
  | _ => false

/-- An option's name, and the value after its equals sign. -/
def splitOption (arg : String) : String × Option String :=
  let cs := arg.toList
  match cs.dropWhile (· != '=') with
  | _ :: value => (String.ofList (cs.takeWhile (· != '=')), some (String.ofList value))
  | [] => (arg, none)

/-- One dash and letters that are all `h`: help. -/
def isShortHelp (arg : String) : Bool :=
  match arg.toList with
  | '-' :: letters => !letters.isEmpty && letters.all (· == 'h')
  | _ => false

/-- Takes a command line apart; `none` if it is no use of the options. With `mixed`, options may
stand after positional arguments. -/
def takeApart (options : OptionTable) (mixed : Bool) (a : Arguments) :
    List String → Option Arguments
  | [] => some a
  | arg :: rest =>
    if arg = "--" then some { a with positional := a.positional ++ rest }
    else if !isOptionLike arg then
      if mixed then takeApart options mixed (a.addPositional arg) rest
      else some { a with positional := a.positional ++ arg :: rest }
    else if isShortHelp arg then takeApart options mixed { a with help := true } rest
    else
      let (name, attached) := splitOption arg
      match options.lookup name, attached with
      | some .help, none => takeApart options mixed { a with help := true } rest
      | some .completion, none => takeApart options mixed { a with completion := true } rest
      | some (.switch key on), none =>
        takeApart options mixed { a with switches := (key, on) :: a.switches } rest
      | some (.value key), some v => takeApart options mixed (a.addValue key v) rest
      | some (.value key), none =>
        match rest with
        | v :: rest => takeApart options mixed (a.addValue key v) rest
        | [] => none
      | _, _ => none

inductive Command where
  | serve (tcp : Bool) (host : String) (port : Int) (logLevel : Option String)
  | compile (folders : List String) (logLevel : Option String)
  | watch (folder : String) (logLevel : Option String)
  | classify (line : String) (cursor : Option Int) (trigger : Option String)
deriving DecidableEq, Repr

/-- What a command line asks for. -/
inductive Invocation where
  | help
  | completion
  | misuse
  | run (command : Command)
deriving DecidableEq, Repr

namespace Command

def helpOption : String × OptionAction := ("--help", .help)

/-- The options before the name of a command. -/
def leadingOptions : OptionTable :=
  [helpOption, ("--install-completion", .completion), ("--show-completion", .completion)]

def logLevelOption : String × OptionAction := ("--log-level", .value "log-level")

def serveOptions : OptionTable :=
  [helpOption, ("--tcp", .switch "tcp" true), ("--no-tcp", .switch "tcp" false),
   ("--host", .value "host"), ("--port", .value "port"), logLevelOption]

def compileOptions : OptionTable := [helpOption, logLevelOption]

def classifyOptions : OptionTable :=
  [helpOption, ("--cursor", .value "cursor"), ("--trigger", .value "trigger")]

/-- An option that is an integer: absent, or readable. -/
def integerOption? (a : Arguments) (key : String) : Option (Option Int) :=
  match a.values.lookup key with
  | none => some none
  | some text =>
    match Json.integerOfText text with
    | .ok n => some (some n)
    | .error _ => none

def serve? (a : Arguments) : Option Command := do
  let port ← integerOption? a "port"
  let tcp := (a.switches.lookup "tcp").getD false
  match a.positional with
  | [] =>
    return .serve tcp ((a.values.lookup "host").getD "127.0.0.1") (port.getD 2087)
      (a.values.lookup "log-level")
  | _ => none

def compile? (a : Arguments) : Option Command :=
  match a.positional with
  | [] => none
  | folders => some (.compile folders (a.values.lookup "log-level"))

def watch? (a : Arguments) : Option Command :=
  match a.positional with
  | [folder] => some (.watch folder (a.values.lookup "log-level"))
  | _ => none

def classify? (a : Arguments) : Option Command := do
  let cursor ← integerOption? a "cursor"
  match a.positional with
  | [line] => return .classify line cursor (a.values.lookup "trigger")
  | _ => none

/-- The commands by name: their options, and what their arguments make. -/
def table : List (String × OptionTable × (Arguments → Option Command)) :=
  [("serve", serveOptions, serve?), ("compile", compileOptions, compile?),
   ("watch", compileOptions, watch?), ("classify", classifyOptions, classify?)]

/-- How the commands are used. -/
def usage : List String :=
  ["serve [--tcp/--no-tcp] [--host TEXT] [--port INTEGER] [--log-level TEXT]",
   "compile [--log-level TEXT] FOLDERS...",
   "watch [--log-level TEXT] FOLDER",
   "classify [--cursor INTEGER] [--trigger TEXT] LINE"]

/-- Reads the arguments of a command. Help goes before everything but options that do not exist. -/
def readArguments (options : OptionTable) (make : Arguments → Option Command)
    (args : List String) : Invocation :=
  match takeApart options true {} args with
  | none => .misuse
  | some a =>
    if a.help then .help
    else
      match make a with
      | some command => .run command
      | none => .misuse

/-- Reads a command line. -/
def ofArguments (args : List String) : Invocation :=
  match takeApart leadingOptions false {} args with
  | none => .misuse
  | some a =>
    if a.help then .help
    else if a.completion then .completion
    else
      match a.positional with
      | [] => .misuse
      | name :: rest =>
        match table.lookup name with
        | some (options, make) => readArguments options make rest
        | none => .misuse

end Command

end Datapack.CommandLine
