import RecordShape.Json.Basic
import RecordShape.Toml.Document

/-!
# Layers of settings

Settings come from several sources, of which later ones go over earlier ones: a value replaces
what was there, a table is merged entry by entry. Each value remembers its source. Names do not
depend on case.
-/

namespace RecordShape
attribute [local instance (high)] instPowNat

inductive Setting where
  | null (source : Option String)
  | text (value : String) (source : Option String)
  | int (value : Int) (source : Option String)
  | float (value : ExtendedDouble) (source : Option String)
  | flag (value : Bool) (source : Option String)
  | list (items : List Setting) (source : Option String)
  | table (entries : List (String × Setting))

namespace Setting

instance : Inhabited Setting := ⟨.table []⟩

/-- The source of a value. Tables are merged and have none. -/
def source? : Setting → Option String
  | null source | text _ source | int _ source | float _ source | flag _ source | list _ source =>
    source
  | table _ => none

/-- The entries of a table; anything else is dropped for an empty one. -/
def entries : Setting → List (String × Setting)
  | table entries => entries
  | _ => []

def entry? (key : String) (s : Setting) : Option Setting := KeyMap.find? key s.entries

mutual
/-- Puts a value under a name. The entries of a table are put into the table already there. -/
def put (root : Setting) (key : String) : Setting → Setting
  | table incoming =>
    table (KeyMap.insert key (putAll ((root.entry? key).getD (.table [])) incoming) root.entries)
  | other => table (KeyMap.insert key other root.entries)

def putAll (target : Setting) : List (String × Setting) → Setting
  | [] => target
  | (key, value) :: rest => putAll (put target key value) rest
end

/-- Puts a value at the end of a path. The path is laid through whatever is in its way. -/
def putPath (value : Setting) : Setting → List String → Setting
  | root, [] => root
  | root, [key] => put root key value
  | root, key :: path =>
    table (KeyMap.insert key (putPath value ((root.entry? key).getD (.table [])) path) root.entries)

def isPathChar (c : Char) : Bool := c.isAlphanum || c = '_' || c = '-'

/-- The path a name spells: parts with dots between them. Any other name is one part. -/
def path (name : String) : List String :=
  let parts := name.splitOn "."
  if parts.all fun part => !part.isEmpty && part.toList.all isPathChar then parts else [name]

/-- Puts the settings of one source over those of others. -/
def layered (root : Setting) (layer : List (String × Setting)) : Setting :=
  layer.foldl (fun root (name, value) => putPath value root (path name)) root

/-- All sources together, the first lowest. -/
def merged (layers : List (List (String × Setting))) : Setting := layers.foldl layered (.table [])

/-! ## Files -/

mutual
/-- A value of a TOML file. -/
def ofToml (source : String) : Toml.Value → Setting
  | .text s => text s (some source)
  | .int n => int n (some source)
  | .float x => float x (some source)
  | .flag b => flag b (some source)
  | .list items => list (itemsOfToml source items) (some source)
  | .table entries => table (entriesOfToml source entries)

def itemsOfToml (source : String) : List Toml.Value → List Setting
  | [] => []
  | v :: rest => ofToml source v :: itemsOfToml source rest

def entriesOfToml (source : String) : List (String × Toml.Value) → List (String × Setting)
  | [] => []
  | (key, v) :: rest => (key.toLower, ofToml source v) :: entriesOfToml source rest
end

mutual
/-- A value of a JSON file. An integer of more than 64 bits counts as a number. -/
def ofJson (source : String) : Json → Setting
  | .null => null (some source)
  | .bool b => flag b (some source)
  | .num (.int n) =>
    if n < 2 ^ (63 : Nat) then int n (some source)
    else float (.finite (Double.ofInt n)) (some source)
  | .num (.double x) => float (.finite x) (some source)
  | .str s => text s (some source)
  | .arr items => list (itemsOfJson source items) (some source)
  | .obj members => table (entriesOfJson source members)

def itemsOfJson (source : String) : List Json → List Setting
  | [] => []
  | j :: rest => ofJson source j :: itemsOfJson source rest

def entriesOfJson (source : String) : List (String × Json) → List (String × Setting)
  | [] => []
  | (key, j) :: rest => (key.toLower, ofJson source j) :: entriesOfJson source rest
end

/-! ## The environment -/

/-- The digits of a decimal number, as a value. -/
private def digits? (s : List Char) : Option Nat :=
  if s.all Toml.isDigit then some (Toml.value 10 (s.map fun c => c.toNat - '0'.toNat)) else none

/-- An integer of 64 bits, perhaps with a sign. -/
def integer? (s : List Char) : Option Int :=
  let (negative, digits) := Toml.sign s
  if digits.isEmpty then none
  else ((digits? digits).map fun n => if negative then -(n : Int) else n).filter fun n =>
    -(2 ^ (63 : Nat)) ≤ n && n < 2 ^ (63 : Nat)

/-- A number, perhaps with a fraction and an exponent, or a word for none. -/
def number? (s : List Char) : Option ExtendedDouble := do
  let (negative, rest) := Toml.sign s
  let word := (String.ofList rest).toLower
  if word = "inf" ∨ word = "infinity" then some (.infinite negative)
  else if word = "nan" then some .notANumber
  else
    let isExponent (c : Char) : Bool := c = 'e' || c = 'E'
    let mantissa := rest.takeWhile fun c => !isExponent c
    let exponent ← match rest.drop mantissa.length with
      | [] => some 0
      | _ :: power =>
        let (down, digits) := Toml.sign power
        if digits.isEmpty then none
        else (digits? digits).map fun n => if down then -(n : Int) else n
    let whole := mantissa.takeWhile (· ≠ '.')
    let fraction := (mantissa.drop whole.length).drop 1
    if whole.isEmpty && fraction.isEmpty then none
    else
      let n ← digits? (whole ++ fraction)
      some (.ofDecimal negative n (exponent - fraction.length))

def environmentName : String := "the environment"

/-- A value of the environment: a truth value, a number or a text. -/
def ofEnvironment (value : String) : Setting :=
  let source := some environmentName
  let word := value.toLower
  if word = "true" then flag true source
  else if word = "false" then flag false source
  else
    match integer? value.toList, number? value.toList with
    | some n, _ => int n source
    | none, some x => float x source
    | none, none => text value source

/-- What a variable must begin with to be a setting. -/
def variablePrefix : String := "fixtures__"

/-- The variables that hold the sections and their settings. -/
def variableNames : List String :=
  ["compiler", "compiler__max_depth", "compiler__unknown_keys", "output", "output__format",
    "output__fail_on_warnings"].map (variablePrefix ++ ·)

/-- The settings among the variables of the environment. Two underscores lead into a section. -/
def ofVariables (entries : List (String × String)) : List (String × Setting) :=
  entries.filterMap fun (name, value) =>
    let name := name.toLower
    if variablePrefix.toList.isPrefixOf name.toList then
      let rest := String.ofList (name.toList.drop variablePrefix.length)
      some (".".intercalate (rest.splitOn "__"), ofEnvironment value)
    else none

end Setting
end RecordShape
