import RecordShape.CommandLine.Run
import RecordShape.Format.Calendar
import Std.Time.DateTime.Timestamp

/-!
# The program

Looks at the files that a command may need, carries the command out, prints and writes.
-/

namespace RecordShape.Program
attribute [local instance (high)] instPowNat

def fileError : IO.Error → FileError
  | .noFileOrDirectory _ _ _ | .noSuchThing _ _ _ => .missing
  | .inappropriateType _ 21 _ => .isFolder
  | .inappropriateType _ _ _ => .notFolder
  | .userError _ => .other "stream did not contain valid UTF-8"
  | e => .other (toString e)

/-- A file, or a folder with all that is below it. Links inside a folder are not followed. -/
partial def nodeAt (path : String) : IO FileTree := do
  let place ← IO.FS.realPath path
  if ← place.isDir then
    let mut entries : KeyMap FileTree := []
    for entry in ← place.readDir do
      let inner := FilePath.join place.toString entry.fileName
      let real ← IO.FS.realPath inner
      if real.toString = inner then
        let node ← try nodeAt inner catch e => pure (.unreadable (fileError e))
        entries := KeyMap.insert entry.fileName node entries
    return .folder entries
  else
    return .file (← IO.FS.readFile path)

/-- What is found at some paths; nothing is found elsewhere. -/
def lookAt (paths : List String) : IO Look := do
  let found ← paths.mapM fun path => do
    let node : Except FileError FileTree ←
      try return (path, .ok (← nodeAt path))
      catch e => pure (.error (fileError e))
    return (path, node)
  return fun path => (found.lookup path).getD (.error .missing)

/-- The path of the configuration file of the user. -/
def userConfig : IO (Option String) := do
  let folder ← match ← IO.getEnv "XDG_CONFIG_HOME" with
    | some folder => if FilePath.isAbsolute folder then pure (some folder) else homeConfig
    | none => homeConfig
  return folder.map fun folder => FilePath.join folder "fixtures/fixtures.toml"
where
  homeConfig : IO (Option String) := do
    return (← IO.getEnv "HOME").map fun home => FilePath.join home ".config"

/-- The variables of the environment that hold settings. -/
def environment : IO (List (String × String)) := do
  let names := Setting.variableNames.flatMap fun name => [name, name.toUpper]
  names.filterMapM fun name => do return (← IO.getEnv name).map fun value => (name, value)

def timestamp : IO String := do
  let now ← Std.Time.Timestamp.now
  let total := now.toNanosecondsSinceUnixEpoch.val.toNat
  return Calendar.timestamp (total / 10 ^ (9 : Nat)) (total % 10 ^ (9 : Nat))

/-- Prints, writes and prints again. -/
def perform (a : Action) : IO UInt32 := do
  IO.print a.printed
  match a.save with
  | none => pure ()
  | some save =>
    try IO.FS.writeFile save.path save.text
    catch e =>
      IO.eprint (save.failure (fileError e)).message
      return 1
  IO.print a.closing
  return a.exitCode.toUInt32

def run (arguments : List String) : IO UInt32 := do
  match Invocation.ofArguments arguments with
  | .error .helpAsked => IO.print UsageError.overview; return 0
  | .error e => IO.eprint e.message; return 2
  | .ok invocation =>
    let user ← userConfig
    let look ← lookAt (Config.searchPaths user invocation.config ++ invocation.command.inputPaths)
    let around : Surroundings :=
      { look, user, environment := ← environment, time := ← timestamp }
    match Command.run around invocation with
    | .error f => IO.eprint f.message; return 1
    | .ok action => perform action

end RecordShape.Program

def main (arguments : List String) : IO UInt32 := RecordShape.Program.run arguments
