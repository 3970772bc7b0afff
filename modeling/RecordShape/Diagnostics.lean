import RecordShape.Reading.Formed

/-!
# Diagnostics

What compiling a schema left looser than the schema asks for, one item a place. Only a reference
to a model that is being expanded is merely noted; everything else is a warning.
-/

namespace RecordShape

inductive Severity where
  | info
  | warning
  deriving DecidableEq, Inhabited

namespace Severity

def text : Severity → String
  | info => "info"
  | warning => "warning"

/-- The name in JSON. -/
def name : Severity → String
  | info => "Info"
  | warning => "Warning"

def toJson (severity : Severity) : Json := .str severity.name

instance : Formed Severity where
  form := .choice ["Info", "Warning"]
  build j := if j = .str "Warning" then warning else info

end Severity

inductive DiagnosticCode where
  | danglingReference
  | cyclicReference
  | depthExceeded
  | missingRegistry
  | unknownType
  | invalidPattern
  | emptyEnum
  deriving DecidableEq, Inhabited

namespace DiagnosticCode

def all : List DiagnosticCode :=
  [danglingReference, cyclicReference, depthExceeded, missingRegistry, unknownType,
    invalidPattern, emptyEnum]

/-- The name in JSON. -/
def name : DiagnosticCode → String
  | danglingReference => "DanglingReference"
  | cyclicReference => "CyclicReference"
  | depthExceeded => "DepthExceeded"
  | missingRegistry => "MissingRegistry"
  | unknownType => "UnknownType"
  | invalidPattern => "InvalidPattern"
  | emptyEnum => "EmptyEnum"

def text : DiagnosticCode → String
  | danglingReference => "W001"
  | cyclicReference => "I001"
  | depthExceeded => "W002"
  | unknownType => "W003"
  | invalidPattern => "W004"
  | emptyEnum => "W005"
  | missingRegistry => "W006"

def severity : DiagnosticCode → Severity
  | cyclicReference => .info
  | _ => .warning

def ofName? (name : String) : Option DiagnosticCode := all.find? fun code => code.name = name

def toJson (code : DiagnosticCode) : Json := .str code.name

instance : Formed DiagnosticCode where
  form := .choice (all.map name)
  build j := (j.string?.bind ofName?).getD default

end DiagnosticCode

structure Diagnostic where
  subject : String
  code : DiagnosticCode
  message : String
  context : List String := []
  deriving DecidableEq, Inhabited

namespace Diagnostic

def severity (d : Diagnostic) : Severity := d.code.severity

def text (d : Diagnostic) : String :=
  "[" ++ d.code.text ++ "] " ++ d.severity.text ++ ": " ++ d.message ++ " (" ++ d.subject ++ ")" ++
    String.join (d.context.map ("\n  - " ++ ·))

def toJson (d : Diagnostic) : Json :=
  .obj ([("code", d.code.toJson)] ++
    (if d.context.isEmpty then [] else [("context", Json.strings d.context)]) ++
    [("message", .str d.message), ("subject", .str d.subject)])

instance : Formed Diagnostic where
  form := .record "DiagnosticItem"
    [("subject", .text), ("code", Formed.form DiagnosticCode), ("message", .text),
      ("context", .list .text)] ["subject", "code", "message"]
  build j :=
    { subject := j.textAt "subject"
      code := Formed.buildAt default "code" j
      message := j.textAt "message"
      context := Formed.buildList "context" j }

def danglingReference (target trail : String) : Diagnostic where
  subject := target
  code := .danglingReference
  message := "$ref target '" ++ target ++ "' not found in schema; accepting any record"
  context := ["Path: " ++ trail]

def cyclicReference (target trail : String) : Diagnostic where
  subject := target
  code := .cyclicReference
  message := "'" ++ target ++ "' is already being expanded; accepting any record"
  context := ["Cycle: " ++ trail ++ " -> " ++ target]

def depthExceeded (target trail : String) (maxDepth : Nat) : Diagnostic where
  subject := target
  code := .depthExceeded
  message := "reference depth " ++ toString maxDepth ++ " reached before '" ++ target ++
    "'; accepting any record"
  context := ["Path: " ++ trail]

/-- There is no schema to look the target up in. -/
def missingRegistry (target : String) : Diagnostic where
  subject := target
  code := .missingRegistry
  message := "cannot resolve '" ++ target ++ "' without a schema; accepting any record"

def unknownType (subject tag : String) : Diagnostic where
  subject := subject
  code := .unknownType
  message :=
    if tag.isEmpty then "no type declared; accepting any record"
    else "unknown type '" ++ tag ++ "'; accepting any record"

def invalidPattern (subject pattern error : String) : Diagnostic where
  subject := subject
  code := .invalidPattern
  message := "pattern /" ++ pattern ++ "/ is not a valid regular expression; pattern dropped"
  context := [error]

def emptyEnum (subject : String) : Diagnostic where
  subject := subject
  code := .emptyEnum
  message := "enum has no string values; treated as a plain string"

end Diagnostic

/-- Diagnostics in the order they arose. -/
structure Diagnostics where
  items : List Diagnostic := []
  deriving DecidableEq, Inhabited

namespace Diagnostics

def warnings (ds : Diagnostics) : List Diagnostic := ds.items.filter (·.severity = .warning)

def hasWarnings (ds : Diagnostics) : Bool := ds.items.any (·.severity = .warning)

def withCode (ds : Diagnostics) (code : DiagnosticCode) : List Diagnostic :=
  ds.items.filter (·.code = code)

/-- One item after another, and a count of warnings and notes if there are any. -/
def text (ds : Diagnostics) : String :=
  String.join (ds.items.map fun d => d.text ++ "\n") ++
    if ds.items.isEmpty then ""
    else "\n" ++ toString ds.warnings.length ++ " warning(s), " ++
      toString (ds.items.length - ds.warnings.length) ++ " note(s)\n"

def toJson (ds : Diagnostics) : Json := .obj [("items", .arr (ds.items.map Diagnostic.toJson))]

instance : Formed Diagnostics where
  form := .record "Diagnostics" [("items", .list (Formed.form Diagnostic))] ["items"]
  build j := { items := Formed.buildList "items" j }

end Diagnostics
end RecordShape
