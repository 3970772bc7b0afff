import RecordShape.Config.Reading
import RecordShape.FileTree
import RecordShape.Reading.Text

/-!
# Where settings come from

The layers of the configuration, lowest first: the standard files, a file of the user, a file that
is asked for by name, and the environment. Only a file that is asked for must be there.
-/

namespace RecordShape
namespace Config

/-- A file with its path and text. -/
structure File where
  path : String
  text : String

/-- A name with the known endings added. -/
def endedNames (name : String) : List String :=
  let stem := "/".intercalate ((FilePath.names name).reverse.dropWhile (· = "")).reverse
  [".toml", ".json"].map (stem ++ ·)

/-- The file that a name stands for: the one with just this name, whose ending must be known, or
else one with an ending added. -/
def locate (look : Look) (name : String) : Except ConfigError File :=
  match look name with
  | .ok (.file text) =>
    match (FilePath.names name).getLast?.bind FilePath.extension? with
    | some "toml" | some "json" => .ok ⟨name, text⟩
    | _ => .error (.unknownFormat name)
  | _ =>
    let found := (endedNames name).findSome? fun path =>
      match look path with
      | .ok (.file text) => some (File.mk path text)
      | _ => none
    match found with
    | some file => .ok file
    | none => .error (.missingFile name)

/-- The path as it is shown in messages, without steps that stay where they are. -/
def File.source (file : File) : String :=
  (if FilePath.isAbsolute file.path then "/" else "") ++
    "/".intercalate ((FilePath.names file.path).filter fun name => name ≠ "" && name ≠ ".")

/-- The settings in a file. -/
def File.settings (file : File) : Except ConfigError (List (String × Setting)) :=
  let source := file.source
  let text := match file.text.toList with
    | '\ufeff' :: rest => String.ofList rest
    | _ => file.text
  if file.path.endsWith ".json" then
    match Json.ofText text with
    | .error e => .error (.malformed e.message source)
    | .ok j =>
      match Setting.ofJson source j.normalize with
      | .table entries => .ok entries
      | other =>
        .error (.malformed
          ("invalid type: " ++ other.describe ++ ", expected a map in " ++ source) source)
  else
    match Toml.document? text with
    | some entries => .ok (Setting.entriesOfToml source entries)
    | none => .error (.malformed "TOML parse error" source)

/-- The settings in a file that need not be there. -/
def settingsIfThere (look : Look) (name : String) : Except ConfigError (List (String × Setting)) :=
  match locate look name with
  | .ok file => file.settings
  | .error _ => .ok []

def standardNames : List String := ["fixtures.toml", ".fixtures.toml", "config/fixtures.toml"]

/-- Where the configuration is looked for. -/
structure Sources where
  look : Look
  /-- The path of the file of the user. -/
  user : Option String := none
  environment : List (String × String) := []

/-- The paths that may be looked at for a configuration. -/
def searchPaths (user asked : Option String) : List String :=
  (standardNames ++ user.toList ++ asked.toList).flatMap fun name => name :: endedNames name

/-- The layers of settings, lowest first. -/
def layers (sources : Sources) (asked : Option String) :
    Except ConfigError (List (List (String × Setting))) := do
  let standard ← standardNames.mapM (settingsIfThere sources.look)
  let user ← match sources.user with
    | some path =>
      match sources.look path with
      | .ok _ => settingsIfThere sources.look path
      | .error _ => pure []
    | none => pure []
  let asked ← match asked with
    | some name => (← locate sources.look name).settings
    | none => pure []
  return standard ++ [user, asked, Setting.ofVariables sources.environment]

def load (sources : Sources) (asked : Option String) : Except ConfigError Config := do
  ofSettings (Setting.merged (← layers sources asked))

end Config
end RecordShape
