import RecordShape.Config.Basic
import RecordShape.Config.Setting

/-!
# Reading the configuration from settings

Numbers and truth values are read generously: from each other and from words. Names of variants do
not depend on case. Settings that nobody asks for are passed over.
-/

namespace RecordShape
attribute [local instance (high)] instPowNat

/-- Why there is no configuration. -/
inductive ConfigError where
  | missingFile (name : String)
  | unknownFormat (name : String)
  /-- A file breaks the rules of its format. -/
  | malformed (reason name : String)
  | wrongType (found expected key : String) (source : Option String)
  | other (message : String)

namespace ConfigError

def message : ConfigError → String
  | missingFile name => "configuration file \"" ++ name ++ "\" not found"
  | unknownFormat name => "configuration file \"" ++ name ++ "\" is not of a registered file format"
  | malformed reason name => reason ++ " in " ++ name
  | wrongType found expected key source =>
    "invalid type: " ++ found ++ ", expected " ++ expected ++ " for key \x60" ++ key ++ "\x60" ++
      match source with
      | some source => " in " ++ source
      | none => ""
  | other message => message

end ConfigError

namespace Setting

/-- The value as it is named in messages about a single setting. -/
def describe : Setting → String
  | null _ => "unit value"
  | text s _ => "string " ++ quoted s
  | int n _ => "64-bit integer \x60" ++ toString n ++ "\x60"
  | float x _ => "floating point \x60" ++ x.text ++ "\x60"
  | flag b _ => "boolean \x60" ++ toString b ++ "\x60"
  | list _ _ => "sequence"
  | table _ => "map"

/-- The value as it is named in messages about a section. -/
def describeSection : Setting → String
  | int n _ => "integer \x60" ++ toString n ++ "\x60"
  | s => s.describe

def wrongType {α : Type} (s : Setting) (found expected key : String) : Except ConfigError α :=
  .error (.wrongType found expected key s.source?)

/-- A number from `0` to `2 ^ 64 - 1`. -/
def toSize (key : String) (s : Setting) : Except ConfigError Nat :=
  match s with
  | int n _ =>
    if 0 ≤ n then .ok n.toNat
    else s.wrongType s.describe "an unsigned 64 bit or less integer" key
  | float x _ => .ok x.toSize
  | flag b _ => .ok (if b then 1 else 0)
  | text word _ =>
    if ["true", "on", "yes"].contains word.toLower then .ok 1
    else if ["false", "off", "no"].contains word.toLower then .ok 0
    else
      let digits := match word.toList with
        | '+' :: rest => rest
        | all => all
      let n := Toml.value 10 (digits.map fun c => c.toNat - '0'.toNat)
      if !digits.isEmpty && digits.all Toml.isDigit && n < 2 ^ (64 : Nat) then .ok n
      else s.wrongType s.describe "an integer" key
  | _ => s.wrongType s.describe "an integer" key

def toFlag (key : String) (s : Setting) : Except ConfigError Bool :=
  match s with
  | flag b _ => .ok b
  | int n _ => .ok (n ≠ 0)
  | float x _ => .ok !x.isZero
  | text word _ =>
    if ["1", "true", "on", "yes"].contains word.toLower then .ok true
    else if ["0", "false", "off", "no"].contains word.toLower then .ok false
    else s.wrongType ("string " ++ quoted word.toLower) "a boolean" key
  | _ => s.wrongType s.describe "a boolean" key

/-- One of some variants, by its name or as the only key of a table. -/
def toVariant {α : Type} (type : String) (variants : List (String × α)) (s : Setting) :
    Except ConfigError α :=
  let find (name : String) : Except ConfigError α :=
    match variants.find? fun v => v.1.toLower = name.toLower with
    | some v => .ok v.2
    | none =>
      .error (.other ("enum " ++ type ++ " does not have variant constructor " ++ name))
  match s with
  | text name _ => find name
  | table [(name, _)] => find name
  | _ =>
    .error (.other ("value of enum " ++ type ++
      " should be represented by either string or table with exactly one key"))

/-- The two settings of a section, each with its name for messages. A section may be a table with
the given names or a list; a missing section sets nothing. -/
def sectionOf (type name first second : String) (root : Setting) :
    Except ConfigError (Option (String × Setting) × Option (String × Setting)) :=
  match root.entry? name with
  | none => .ok (none, none)
  | some (table entries) =>
    let at' (key : String) : Option (String × Setting) :=
      (KeyMap.find? key entries).map fun s => (name ++ "." ++ key, s)
    .ok (at' first, at' second)
  | some (list items _) =>
    let at' (i : Nat) : Option (String × Setting) :=
      items[i]?.map fun s => (name ++ "[" ++ toString i ++ "]", s)
    .ok (at' 0, at' 1)
  | some s =>
    .error (.other ("invalid type: " ++ s.describeSection ++ ", expected struct " ++ type))

/-- Reads a setting, or takes the default if it is not there. -/
def readOr {α : Type} (default : α) (read : String → Setting → Except ConfigError α) :
    Option (String × Setting) → Except ConfigError α
  | none => .ok default
  | some (key, s) => read key s

end Setting

/-- Why a configuration is no TOML document. -/
inductive TomlError where
  | outOfRange
  deriving DecidableEq

namespace TomlError

def cause : TomlError → String
  | outOfRange => "out-of-range value for u64 type"

def message (e : TomlError) : String := "TOML error: " ++ e.cause

end TomlError

namespace Config
open Setting

def ofSettings (root : Setting) : Except ConfigError Config := do
  let (maxDepth, unknownKeys) ←
    sectionOf "CompileOptions" "compiler" "max_depth" "unknown_keys" root
  let maxDepth ← readOr defaultMaxDepth toSize maxDepth
  let unknownKeys ← readOr .allow
    (fun _ => toVariant "UnknownKeys" [("allow", .allow), ("reject", .reject)]) unknownKeys
  let (format, failOnWarnings) ← sectionOf "OutputConfig" "output" "format" "fail_on_warnings" root
  let format ← readOr .pretty
    (fun _ => toVariant "OutputFormat" [("pretty", .pretty), ("compact", .compact)]) format
  let failOnWarnings ← readOr false toFlag failOnWarnings
  return { compiler := { maxDepth, unknownKeys }, output := { format, failOnWarnings } }

/-- The configuration as a TOML document. Integers there have no more than 63 bits. -/
def toToml (c : Config) : Except TomlError String :=
  if c.compiler.maxDepth < 2 ^ (63 : Nat) then
    .ok ("[compiler]\nmax_depth = " ++ toString c.compiler.maxDepth ++
      "\nunknown_keys = \"" ++ c.compiler.unknownKeys.name ++
      "\"\n\n[output]\nformat = \"" ++ c.output.format.name ++
      "\"\nfail_on_warnings = " ++ toString c.output.failOnWarnings ++ "\n")
  else .error .outOfRange

end Config
end RecordShape
