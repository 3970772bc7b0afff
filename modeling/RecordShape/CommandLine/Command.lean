import RecordShape.CommandLine.Arguments

/-!
# Commands

The commands of the program and how they are asked for. The configuration file may be named before
or after the command; the name after it counts.
-/

namespace RecordShape

/-- What to check: fixture files and folders of them, against the document of a schema. -/
structure CheckCommand where
  schema : String
  data : List String
  isPartial : Bool := false
  maxDepth : Option Nat := none
  report : Option String := none
  deriving DecidableEq

inductive Command where
  | check (c : CheckCommand)
  | exportSchema (schema : String) (isPartial : Bool) (output : Option String)
  | inspect (schema : String)
  | showConfig (save : Option String)
  deriving DecidableEq

/-- A command and the configuration file it asks for. -/
structure Invocation where
  config : Option String
  command : Command
  deriving DecidableEq

/-- How a command is given. Nothing is built if an argument is missing. -/
structure CommandForm where
  name : String
  about : String
  options : List CommandOption
  takesWords : Bool := false
  build : Given → Option Command

namespace CommandForm

private def schemaOption : CommandOption := ⟨"schema", some 's', .path⟩
private def partialOption : CommandOption := ⟨"partial", none, .switch⟩

def check : CommandForm where
  name := "check"
  about := "Check fixture documents against the compiled document validator"
  options := [schemaOption, partialOption, ⟨"max-depth", none, .size⟩, ⟨"report", some 'r', .path⟩]
  takesWords := true
  build g := do
    let schema ← g.text? "schema"
    if g.words.isEmpty then none
    else
      return .check
        { schema, data := g.words, isPartial := g.has "partial"
          maxDepth := g.size? "max-depth", report := g.text? "report" }

def exportSchema : CommandForm where
  name := "export"
  about := "Export the document validator as JSON Schema"
  options := [schemaOption, partialOption, ⟨"output", some 'o', .path⟩]
  build g := do
    return .exportSchema (← g.text? "schema") (g.has "partial") (g.text? "output")

def inspect : CommandForm where
  name := "inspect"
  about := "Show fixture models, reference cycles, dangling refs and diagnostics"
  options := [schemaOption]
  build g := do return .inspect (← g.text? "schema")

def showConfig : CommandForm where
  name := "config"
  about := "Print the effective configuration"
  options := [⟨"save", none, .path⟩]
  build g := some (.showConfig (g.text? "save"))

def all : List CommandForm := [check, exportSchema, inspect, showConfig]

def ofName? (name : String) : Option CommandForm := all.find? fun form => form.name = name

end CommandForm

namespace Invocation

def programName : String := "fixture-check"

/-- The options of every command. -/
def commonOptions : List CommandOption := [⟨"config", some 'c', .text⟩, ⟨"help", some 'h', .help⟩]

def isCommandName (name : String) : Bool := name = "help" || (CommandForm.ofName? name).isSome

/-- Asking for help, perhaps on one command. -/
def helpOn : List String → UsageError
  | [] => .helpAsked
  | name :: rest =>
    if isCommandName name then
      match rest with
      | [] => .helpAsked
      | extra :: _ => .unknownCommand extra
    else .unknownCommand name

/-- Reads what stands after the name of a command. -/
def readCommand (form : CommandForm) (arguments : List String) :
    Except UsageError (Given × Command) := do
  let (progress, rest) ←
    Progress.read (form.options ++ commonOptions) form.takesWords {} arguments
  match rest with
  | extra :: _ => .error (.unexpectedArgument extra)
  | [] =>
    let given ← progress.settle
    match form.build given with
    | some command => .ok (given, command)
    | none => .error .missingArguments

def ofArguments (arguments : List String) : Except UsageError Invocation := do
  let (progress, rest) ← Progress.read commonOptions false {} arguments
  match rest with
  | [] =>
    let given ← progress.settle
    .error (if given.options.isEmpty then .noArguments else .missingCommand)
  | name :: rest =>
    if progress.onlyWords && isCommandName name then .error (.unexpectedArgument name)
    else
      match CommandForm.ofName? name with
      | some form =>
        let (given, command) ← readCommand form rest
        let before ← progress.settle
        return ⟨given.text? "config" <|> before.text? "config", command⟩
      | none => .error (if name = "help" then helpOn rest else .unknownCommand name)

end Invocation

namespace UsageError

def overview : String :=
  "Check demo fixture data against an API schema descriptor\n\nUsage: " ++
    Invocation.programName ++ " [OPTIONS] <COMMAND>\n\nCommands:\n" ++
    String.join (CommandForm.all.map fun form =>
      "  " ++ form.name ++ "".pushn ' ' (9 - form.name.length) ++ form.about ++ "\n") ++
    "\nOptions:\n  -c, --config <CONFIG>  Configuration file (TOML)\n" ++
    "  -h, --help             Print help\n"

private def inQuotes (s : String) : String := "'" ++ s ++ "'"

private def fault : UsageError → String
  | helpAsked | noArguments => ""
  | missingCommand =>
    inQuotes Invocation.programName ++ " requires a subcommand but one was not provided"
  | unknownCommand name => "unrecognized subcommand " ++ inQuotes name
  | missingArguments => "the following required arguments were not provided:"
  | unexpectedArgument argument => "unexpected argument " ++ inQuotes argument ++ " found"
  | unexpectedValue value label =>
    "unexpected value " ++ inQuotes value ++ " for " ++ inQuotes label ++
      " found; no more were expected"
  | missingValue label =>
    "a value is required for " ++ inQuotes label ++ " but none was supplied"
  | invalidValue value label reason =>
    "invalid value " ++ inQuotes value ++ " for " ++ inQuotes label ++ ": " ++ reason
  | repeated label => "the argument " ++ inQuotes label ++ " cannot be used multiple times"

def message : UsageError → String
  | helpAsked | noArguments => overview
  | e => "error: " ++ e.fault ++ "\n\nFor more information, try '--help'.\n"

end UsageError
end RecordShape
