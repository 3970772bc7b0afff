import RecordShape.CommandLine.Command
import RecordShape.Compile.Document
import RecordShape.Config.Basic
import RecordShape.FileTree
import RecordShape.Reading.Text
import RecordShape.Shape.Check

/-!
# Checking fixture files

Every file that is asked for gets a result: why it cannot be read, or the report on its value. The
run passes if all of them are valid, unless warnings about the schema count as failures.
-/

namespace RecordShape

/-- What checking one file has found. -/
structure FileResult where
  path : String
  outcome : Except String Report

namespace FileResult

/-- Checks the value that a text stands for. -/
def ofText (document : ObjectShape) (path : String) (text : Except FileError String) :
    FileResult where
  path := path
  outcome := do
    let text ← text.mapError FileError.message
    let value ← (Json.ofText text).mapError ReadError.message
    return document.check value.normalize

def isValid (r : FileResult) : Bool :=
  match r.outcome with
  | .ok report => report.isValid
  | .error _ => false

def issues (r : FileResult) : List Issue :=
  match r.outcome with
  | .ok report => report.issues
  | .error _ => []

def error? (r : FileResult) : Option String :=
  match r.outcome with
  | .ok _ => none
  | .error reason => some reason

/-- The lines about a file: its mark and path, and each fault. -/
def lines (r : FileResult) : List String :=
  ((if r.isValid then "  ✅ " else "  ❌ ") ++ r.path) ::
    (r.error?.toList ++ r.issues.map Issue.text).map ("     └─ " ++ ·)

def toJson (r : FileResult) : Json :=
  .obj ((r.error?.toList.map fun reason => ("error", .str reason)) ++
    (if r.issues.isEmpty then [] else [("issues", .arr (r.issues.map Issue.toJson))]) ++
    [("path", .str r.path), ("valid", .bool r.isValid)])

end FileResult

/-- The files that an argument stands for, each with its path and text. A folder stands for the
JSON files below it in the order of their paths. -/
def dataFiles (look : Look) (input : String) : List (String × Except FileError String) :=
  match look input with
  | .ok (.folder entries) =>
    let found := (FileTree.folder entries).files.filter fun f =>
      f.1.getLast?.bind FilePath.extension? = some "json"
    (found.mergeSort fun a b => FilePath.isUpTo a.1 b.1).map fun f =>
      (FilePath.join input ("/".intercalate f.1), f.2.text)
  | .ok node => [(input, node.text)]
  | .error e => [(input, .error e)]

/-- The check of some files against a document. -/
structure CheckRun where
  schema : String
  isPartial : Bool
  document : ObjectShape
  diagnostics : Diagnostics
  failOnWarnings : Bool
  results : List FileResult

namespace CheckRun

/-- Compiles the document and checks the files. -/
def ofCommand (look : Look) (config : Config) (schema : Schema) (c : CheckCommand) : CheckRun :=
  let options := { config.compiler with maxDepth := c.maxDepth.getD config.compiler.maxDepth }
  let compiled :=
    if c.isPartial then schema.partialDocument options else schema.fullDocument options
  { schema := c.schema
    isPartial := c.isPartial
    document := compiled.value
    diagnostics := ⟨compiled.diagnostics⟩
    failOnWarnings := config.output.failOnWarnings
    results := (c.data.flatMap (dataFiles look)).map fun f =>
      FileResult.ofText compiled.value f.1 f.2 }

def failed (run : CheckRun) : Nat := (run.results.filter fun r => !r.isValid).length

def warningsFail (run : CheckRun) : Bool := run.failOnWarnings && run.diagnostics.hasWarnings

def exitCode (run : CheckRun) : Nat := if run.failed = 0 ∧ !run.warningsFail then 0 else 1

def mode (run : CheckRun) : String := if run.isPartial then "partial" else "full"

/-- What is shown before the files: the schema, and its diagnostics if there are any. -/
def opening (run : CheckRun) : List String :=
  ["🔍 Checking fixtures against " ++ run.schema ++ " (" ++ run.mode ++ " document, " ++
      toString run.document.fields.length ++ " models)"] ++
    (if run.diagnostics.items.isEmpty then [] else ["", run.diagnostics.text]) ++ [""]

/-- The verdict, which is shown last. -/
def verdict (run : CheckRun) : String :=
  if run.failed ≠ 0 then
    "❌ " ++ toString run.failed ++ " of " ++ toString run.results.length ++
      " fixture file(s) failed"
  else if run.warningsFail then
    "❌ Schema produced " ++ toString run.diagnostics.warnings.length ++ " warning(s)"
  else "✅ All " ++ toString run.results.length ++ " fixture file(s) valid"

/-- The written report. -/
def report (run : CheckRun) (time : String) : Json :=
  .obj [("diagnostics", run.diagnostics.toJson), ("documents", .ofNat run.results.length),
    ("failed", .ofNat run.failed), ("generated_at", .str time), ("mode", .str run.mode),
    ("passed", .ofNat (run.results.length - run.failed)),
    ("results", .arr (run.results.map FileResult.toJson)), ("schema", .str run.schema)]

end CheckRun
end RecordShape
