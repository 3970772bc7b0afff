import RecordShape.CommandLine.Check
import RecordShape.Config.Loading
import RecordShape.Graph.Basic
import RecordShape.Schema.Form
import RecordShape.Shape.Export

/-!
# Carrying out commands

A command reads files, prints, and writes at most one file, after which it prints again. Reading
and computing make an action, so that printing and writing are all that is left to do.
-/

namespace RecordShape

/-- Why a command cannot be carried out, each cause after what it is a cause of. -/
structure Failure where
  causes : List String

def Failure.message (f : Failure) : String := "Error: " ++ ": ".intercalate f.causes ++ "\n"

/-- A file to write, and what it means if that cannot be done. -/
structure Save where
  path : String
  text : String
  failure : FileError → Failure

structure Action where
  printed : String := ""
  save : Option Save := none
  /-- What is printed when the file has been written. -/
  closing : String := ""
  exitCode : Nat := 0

/-- A text of some lines. -/
def textOfLines (lines : List String) : String := String.join (lines.map (· ++ "\n"))

/-- What surrounds a run of the program. -/
structure Surroundings extends Config.Sources where
  time : String := ""

namespace Command

def loadSchema (look : Look) (path : String) : Except Failure Schema := do
  let purpose := "loading schema " ++ path
  let text ← (look path >>= FileTree.text).mapError fun e =>
    ⟨[purpose, "IO error: " ++ e.message, e.message]⟩
  (Schema.ofText text).mapError fun e =>
    match e with
    | .descriptor _ => ⟨[purpose, e.message]⟩
    | .text cause => ⟨[purpose, e.message, cause.message]⟩

def runCheck (around : Surroundings) (config : Config) (c : CheckCommand) :
    Except Failure Action := do
  let schema ← loadSchema around.look c.schema
  let run := CheckRun.ofCommand around.look config schema c
  let shown := run.opening ++ run.results.flatMap FileResult.lines
  let last := ["", run.verdict]
  match c.report with
  | none => return { printed := textOfLines (shown ++ last), exitCode := run.exitCode }
  | some path =>
    let save : Save :=
      { path, text := config.output.format.render (run.report around.time)
        failure e := ⟨["writing report to " ++ path, e.message]⟩ }
    return {
      printed := textOfLines shown
      save := some save
      closing := textOfLines (["", "📝 Report written to " ++ path] ++ last)
      exitCode := run.exitCode }

def runExport (around : Surroundings) (config : Config) (schema : String) (isPartial : Bool)
    (output : Option String) : Except Failure Action := do
  let s ← loadSchema around.look schema
  let document :=
    (if isPartial then s.partialDocument config.compiler else s.fullDocument config.compiler).value
  let text := config.output.format.render document.toSchema
  match output with
  | none => return { printed := textOfLines [text] }
  | some path =>
    let save : Save :=
      { path, text, failure e := ⟨["writing schema to " ++ path, e.message]⟩ }
    return {
      save := some save
      closing := textOfLines
        ["✅ Exported " ++ toString document.fields.length ++ " models to " ++ path] }

def cycleLine (g : CycleGroup) : String :=
  if g.isSelfReferential then "  ↻ " ++ String.join g.members ++ " (self)"
  else "  ↻ " ++ " ↔ ".intercalate g.members

def danglingLine (d : DanglingReference) : String :=
  "  ⚠️  " ++ d.fromModel ++ d.site ++ " -> " ++ d.target ++
    if d.suggestions.isEmpty then ""
    else " (did you mean " ++ ", ".intercalate d.suggestions ++ "?)"

/-- A headline with a count over some lines. -/
def counted (headline : String) (lines : List String) : List String :=
  (headline ++ " (" ++ toString lines.length ++ "):") :: lines

/-- A counted list after a blank line, or nothing for no lines. -/
def countedIfAny (headline : String) (lines : List String) : List String :=
  if lines.isEmpty then [] else "" :: counted headline lines

def runInspect (around : Surroundings) (config : Config) (schema : String) :
    Except Failure Action := do
  let s ← loadSchema around.look schema
  let g := ReferenceGraph.ofSchema s
  let diagnostics : Diagnostics := ⟨(s.documents config.compiler).diagnostics⟩
  return {
    printed := textOfLines <|
      ["📊 " ++ schema, "  Models:     " ++ toString g.nodes.length,
        "  References: " ++ toString g.referenceCount, ""] ++
      counted "Fixture models" (g.fixtureModels.map ("  • " ++ ·)) ++
      countedIfAny "Reference cycles" (g.cycles.map cycleLine) ++
      countedIfAny "Dangling references" (g.dangling.map danglingLine) ++
      ["", if diagnostics.items.isEmpty then "✅ No compile diagnostics" else diagnostics.text] }

/-- The configuration is printed, or saved. -/
def runShowConfig (config : Config) (save : Option String) : Except Failure Action := do
  let text ← config.toToml.mapError fun e => ⟨[e.message, e.cause]⟩
  match save with
  | none => return { printed := text }
  | some path =>
    let save : Save :=
      { path, text, failure e := ⟨["IO error: " ++ e.message, e.message]⟩ }
    return {
      save := some save
      closing := textOfLines ["✅ Configuration saved to " ++ path] }

/-- Carries out a command with the configuration it asks for. -/
def run (around : Surroundings) (invocation : Invocation) : Except Failure Action := do
  let config ← (Config.load around.toSources invocation.config).mapError fun e =>
    ⟨["loading configuration", e.message]⟩
  match invocation.command with
  | check c => runCheck around config c
  | exportSchema schema isPartial output => runExport around config schema isPartial output
  | inspect schema => runInspect around config schema
  | showConfig save => runShowConfig config save

/-- The paths that a command may look at. -/
def inputPaths : Command → List String
  | check c => c.schema :: c.data
  | exportSchema schema _ _ => [schema]
  | inspect schema => [schema]
  | showConfig _ => []

end Command

/-- What a run of the program leaves behind. -/
structure Outcome where
  exitCode : Nat
  stdout : String
  stderr : String
  tree : FileSystem

namespace Outcome

/-- Prints, writes and prints again. -/
def ofAction (system : FileSystem) (a : Action) : Outcome :=
  match a.save with
  | none => ⟨a.exitCode, a.printed ++ a.closing, "", system⟩
  | some save =>
    match system.write save.path save.text with
    | .ok written => ⟨a.exitCode, a.printed ++ a.closing, "", written⟩
    | .error e => ⟨1, a.printed, (save.failure e).message, system⟩

def ofUsageError (system : FileSystem) (e : UsageError) : Outcome :=
  if e = .helpAsked then ⟨0, e.message, "", system⟩ else ⟨2, "", e.message, system⟩

/-- Runs the program with some arguments. -/
def ofArguments (system : FileSystem) (user : Option String)
    (environment : List (String × String)) (time : String) (arguments : List String) : Outcome :=
  match Invocation.ofArguments arguments with
  | .error e => ofUsageError system e
  | .ok invocation =>
    match Command.run { look := system.look, user, environment, time } invocation with
    | .error f => ⟨1, "", f.message, system⟩
    | .ok action => ofAction system action

end Outcome
end RecordShape
