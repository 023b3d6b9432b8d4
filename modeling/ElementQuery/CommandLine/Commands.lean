import ElementQuery.CommandLine.Arguments
import ElementQuery.CommandLine.Inspection
import ElementQuery.Log.Remark
import ElementQuery.Settings.Load

/-!
# The commands

`css` and `xpath` write the selector of a query, `inspect` tells how the query would be resolved.
Options before the command name a settings file and a log level. A run is a function of the
arguments, of the files and of the time stamp for log lines.

## Main definitions

* `Surroundings` : what a run depends on besides its arguments.
* `Command` : the commands, their options and their help.
* `Failure`, `Breakdown` : how a run ends without a result.
* `Outcome` : what a run writes and how it ends.
* `run` : a whole run.
-/

namespace ElementQuery.CommandLine

open ElementQuery.Text

/-- The name of the program. -/
def programName : String := "wdquery"

/-- The version of the program. -/
def version : String := "1.0.0"

/-- What is found at a path. -/
inductive FileState where
  | absent
  | directory
  | file (bytes : List Nat)
  deriving DecidableEq, Repr

/-- What a run depends on besides its arguments. -/
structure Surroundings where
  fileAt : String → FileState
  stamp : String

namespace Surroundings

/-- What is in the file at a path, if there is one. -/
def bytesAt (s : Surroundings) (path : String) : Option (List Nat) :=
  match s.fileAt path with
  | .file bytes => some bytes
  | _ => none

/-- Whether there is a directory at a path. -/
def isDirectory (s : Surroundings) (path : String) : Bool := s.fileAt path == .directory

end Surroundings

/-- A fault that a run does not expect and ends with. -/
inductive Breakdown where
  /-- A query text has a token that is beyond what can be handled. -/
  | text (cause : Notation.Error)
  | query (cause : Fault)
  | settings (cause : Settings.LoadError)

/-- The wording of the fault. -/
def Breakdown.message : Breakdown → String
  | text cause => cause.message
  | query cause => cause.message
  | settings cause => cause.message

/-- How a run ends without a result. -/
inductive Failure where
  | usage (cause : UsageFault)
  | refused (message : String)
  | brokenDown (cause : Breakdown)

/-- What a run writes and how it ends. -/
structure Outcome where
  exitCode : Nat
  output : String := ""
  complaints : String := ""
  /-- The unexpected fault that ended the run, if there is one. -/
  breakdown : Option Breakdown := none

/-- A command. -/
inductive Command where
  | compile (language : Language)
  /-- Tells how a query would be resolved. -/
  | inspect
  deriving DecidableEq, Repr

namespace Command

/-- All commands, by the order of their names. -/
def all : List Command := [compile .css, inspect, compile .xpath]

/-- The name of a command. -/
def name : Command → String
  | compile language => language.name
  | inspect => "inspect"

/-- The command with a name. -/
def ofName? (name : String) : Option Command := all.find? (·.name == name)

end Command

/-- The option that asks for help. -/
def helpOption : OptionForm := { long := "--help" }

/-- The option that asks for the version. -/
def versionOption : OptionForm := { long := "--version" }

/-- The option that names a settings file. -/
def settingsOption : OptionForm := { long := "--config", short := some 'c', value := .file }

/-- The option that names a log level. -/
def levelOption : OptionForm :=
  { long := "--log-level", value := .choice (Log.Level.all.map (·.name)) true }

/-- The option that names a scope. -/
def scopeOption : OptionForm :=
  { long := "--scope", short := some 's'
    value := .choice [Scope.document.name, Scope.context.name] false }

/-- The option that names a selector language. -/
def languageOption : OptionForm :=
  { long := "--language", short := some 'l'
    value := .choice [Language.css.name, Language.xpath.name] false }

/-- The option that names an output format. -/
def formatOption : OptionForm :=
  { long := "--format", short := some 'f', value := .choice ["text", "json"] false }

/-- The options before the command. -/
def programOptions : List OptionForm := [settingsOption, levelOption, versionOption, helpOption]

/-- The options of a command. -/
def Command.options : Command → List OptionForm
  | compile .css => [helpOption]
  | compile .xpath => [scopeOption, helpOption]
  | inspect => [languageOption, scopeOption, formatOption, helpOption]

/-- What the program or a command of it is called and takes. -/
def usageLine : Option Command → String
  | none => "Usage: " ++ programName ++ " [OPTIONS] COMMAND [ARGS]..."
  | some command => "Usage: " ++ programName ++ " " ++ command.name ++ " [OPTIONS] QUERY"

/-- How to ask for help on the program or on a command of it. -/
def helpCall : Option Command → String
  | none => programName ++ " --help"
  | some command => programName ++ " " ++ command.name ++ " --help"

/-- The help on the program or on a command of it. -/
def helpText (command : Option Command) : String :=
  let options := match command with
    | none => programOptions
    | some command => command.options
  let listed (title : String) (names : List String) : List String :=
    if names.isEmpty then [] else "" :: (title ++ ":") :: names.map ("  " ++ ·)
  let commands := if command.isNone then Command.all.map (·.name) else []
  String.intercalate "\n"
    (usageLine command :: listed "Options" (options.map (·.long)) ++ listed "Commands" commands)
    ++ "\n"

/-- The end of a run that failed, in the program or in a command of it. -/
def Failure.outcome (command : Option Command) : Failure → Outcome
  | usage cause =>
    { exitCode := 2
      complaints := usageLine command ++ "\nTry '" ++ helpCall command ++ "' for help.\n\nError: "
        ++ cause.message ++ "\n" }
  | refused message => { exitCode := 1, complaints := "Error: " ++ message ++ "\n" }
  | brokenDown cause => { exitCode := 1, breakdown := some cause }

/-- What running a command gives: the records on the way, and what is written or a failure. -/
structure Answer where
  remarks : List Log.Record
  result : Except Failure String

variable [Regex.Engine]

/-- An answer that is only a failure. -/
def Answer.fail (failure : Failure) : Answer := ⟨[], .error failure⟩

/-- What an operand with a query stands for. -/
def readQuery (text : String) : Except Failure Notation.Parsed :=
  (Notation.parse text).mapError fun e =>
    if e.isBreakdown then .brokenDown (.text e) else .usage (.badOperand "QUERY" e.message)

/-- The failure that a fault of a query is to a run. -/
def failureOf (e : Fault) : Failure :=
  if e.isOfQuery then .refused e.message else .brokenDown (.query e)

/-- Why a query with a regular expression is not compiled. -/
def noFormMessage (language : Language) : String :=
  "Query contains a regex value and has no " ++ language.title ++ " form; run '" ++ programName
    ++ " inspect' to see how it is matched"

/-- The selector of what a text stands for. -/
def selectorOf (language : Language) (scope : Scope) : Notation.Parsed →
    Except Fault (Option String)
  | .query q => selectorIn language scope q
  | .ancestry a => pathIn language scope a

/-- The remarks on building the selector of what a text stands for. -/
def remarksOn (language : Language) (selector : Option String) : Notation.Parsed → List Log.Record
  | .query _ => Log.Remark.ofSelector language selector
  | .ancestry _ => Log.Remark.ofPath language selector

/-- Compiles what a text stands for. -/
def compile (language : Language) (scope : Scope) (parsed : Notation.Parsed) : Answer :=
  match selectorOf language scope parsed with
  | .error e => .fail (failureOf e)
  | .ok none => ⟨remarksOn language none parsed, .error (.refused (noFormMessage language))⟩
  | .ok (some selector) =>
    ⟨Log.Remark.ofCompiled language selector, .ok (selector ++ "\n")⟩

/-- Inspects what a text stands for. -/
def inspectAs (language : Language) (scope : Scope) (asJson : Bool) (parsed : Notation.Parsed) :
    Answer :=
  match inspect parsed language scope with
  | .error e => .fail (failureOf e)
  | .ok findings =>
    let text := if asJson then findings.toJson.indented 0 ++ "\n"
      else String.join (findings.lines.map (· ++ "\n"))
    let remarks := match findings.plan with
      | .ok p => Log.Remark.ofPlan p
      | .error _ => []
    ⟨remarks, .ok text⟩

/-- Runs a command with the values of its options on a query. -/
def Command.answer (command : Command) (settings : Settings) (values : List (String × String))
    (text : String) : Answer :=
  let scope := ((values.lookup scopeOption.long).bind Scope.ofName?).getD
    settings.compiler.defaultScope
  let language := ((values.lookup languageOption.long).bind Language.ofName?).getD
    settings.compiler.defaultLanguage
  match readQuery text with
  | .error failure => .fail failure
  | .ok parsed =>
    match command with
    | compile language => CommandLine.compile language scope parsed
    | inspect =>
      inspectAs language scope (values.lookup formatOption.long == some "json") parsed

/-- The one operand that a command takes. -/
def theQuery : List String → Except UsageFault String
  | [] => throw (.operandMissing "QUERY")
  | [text] => return text
  | _ :: extra => throw (.extraOperands extra)

/-- The lines that the package logger writes for records. -/
def logLines (stamp : String) (routing : Log.Routing) (remarks : List Log.Record) : String :=
  String.join ((routing.logAll remarks).filterMap fun (_, record) =>
    (record.line? stamp).map (· ++ "\n"))

/-- Runs a command on its arguments. -/
def Command.run (s : Surroundings) (settings : Settings) (routing : Log.Routing)
    (command : Command) (args : List String) : Outcome :=
  let request : Except UsageFault (Option Answer) := do
    let arguments ← readArguments command.options true args
    if arguments.options.contains helpOption then return none
    let values ← arguments.settle s.isDirectory
    return some (command.answer settings values (← theQuery arguments.operands))
  match request with
  | .error cause => Failure.outcome command (.usage cause)
  | .ok none => { exitCode := 0, output := helpText command }
  | .ok (some answer) =>
    let log := logLines s.stamp routing answer.remarks
    match answer.result with
    | .ok output => { exitCode := 0, output := output, complaints := log }
    | .error failure =>
      let outcome := failure.outcome command
      { outcome with complaints := log ++ outcome.complaints }

/-- What the arguments before and from the command on ask for. -/
inductive Request where
  | version
  | help
  /-- A command with its arguments, after options with these values. -/
  | command (values : List (String × String)) (name : String) (args : List String)

/-- What the arguments of the program ask for. -/
def readRequest (s : Surroundings) (args : List String) : Except UsageFault Request := do
  let arguments ← readArguments programOptions false args
  match arguments.options.find? fun o => o == versionOption || o == helpOption with
  | some o => return if o = versionOption then .version else .help
  | none =>
    let values ← arguments.settle s.isDirectory
    match arguments.operands with
    | [] => throw .commandMissing
    | name :: rest => return .command values name rest

/-- The path of the settings file that the arguments of the program name. -/
def settingsPath? (args : List String) : Option String :=
  match readArguments programOptions false args with
  | .error _ => none
  | .ok arguments =>
    if arguments.options.contains settingsOption then some (arguments.lastValue settingsOption)
    else none

/-- Whether the name of a command starts with a mark, as options do. -/
def startsWithMark (name : String) : Bool :=
  match name.toList with
  | [] => false
  | c :: _ => !isAlphanumeric c

/-- The settings and the routing of log records that options ask for. -/
def prepare (s : Surroundings) (values : List (String × String)) :
    Except Failure (Settings × Log.Routing) := do
  let settings ← (Settings.load s.bytesAt (values.lookup settingsOption.long)).mapError fun e =>
    if e.path?.isSome then .refused e.message else .brokenDown (.settings e)
  let level := (values.lookup levelOption.long).getD settings.logging.level.name
  let routing ← (({} : Log.Routing).configure (.named level) 0).mapError fun e =>
    .refused e.message
  return (settings, routing)

/-- The outcome of a request. A name that starts with a mark and is no command is read as an
option once more. -/
def outcomeOf (s : Surroundings) : Except UsageFault Request → Outcome
  | .error cause => Failure.outcome none (.usage cause)
  | .ok .version =>
    { exitCode := 0, output := programName ++ ", version " ++ version ++ "\n" }
  | .ok .help => { exitCode := 0, output := helpText none }
  | .ok (.command values name args) =>
    match Command.ofName? name with
    | none =>
      let similar := similarNames name (Command.all.map (·.name))
      Failure.outcome none (.usage (.noSuchCommand name similar))
    | some command =>
      match prepare s values with
      | .error failure => failure.outcome none
      | .ok (settings, routing) => command.run s settings routing args

/-- A request, unless its command is a misplaced option. -/
def redirect (s : Surroundings) (request : Except UsageFault Request) :
    Except UsageFault Request :=
  match request with
  | .ok (.command values name args) =>
    if (Command.ofName? name).isNone && startsWithMark name then
      match readRequest s (name :: args) with
      | .ok (.command ..) | .error .commandMissing => .ok (.command values name args)
      | other => other
    else request
  | request => request

/-- A whole run. Without arguments there is only the help. -/
def run (s : Surroundings) (args : List String) : Outcome :=
  if args.isEmpty then { exitCode := 2, complaints := helpText none }
  else outcomeOf s (redirect s (readRequest s args))

end ElementQuery.CommandLine
