import RecordShape.Shape.Basic
import RecordShape.Report.Issue

/-!
# Checking a value against a shape

Every violation is reported with its place. Nothing below a value of the wrong kind is looked at.
-/

namespace RecordShape

namespace Issue

def wrongType (path : Path) (expected : String) (found : Json) : Issue where
  path
  code := .invalidType
  message := "expected " ++ expected ++ ", got " ++ found.kindName

end Issue

/-- An issue if a condition holds. -/
def issueIf (condition : Bool) (path : Path) (code : IssueCode) (message : String) : List Issue :=
  if condition then [{ path, code, message }] else []

namespace NumberRules

private def shown (x : Double) : String := DecimalLayout.plain.write x

def issues (rules : NumberRules) (path : Path) (j : Json) : List Issue :=
  match j with
  | .num n =>
    let x := n.toDouble
    issueIf (rules.integer && !x.isWhole) path .notInteger ("expected integer, got " ++ shown x) ++
    (match rules.minimum with
    | none => []
    | some low =>
      issueIf (x < low) path .tooSmall (shown x ++ " is less than minimum " ++ shown low)) ++
    (match rules.maximum with
    | none => []
    | some high =>
      issueIf (high < x) path .tooLarge (shown x ++ " is greater than maximum " ++ shown high))
  | _ => [.wrongType path (if rules.integer then "integer" else "number") j]

end NumberRules

namespace StringRules

private def inQuotes (s : String) : String := "\"" ++ s ++ "\""

def issues (rules : StringRules) (path : Path) (j : Json) : List Issue :=
  match j with
  | .str s =>
    (match rules.format with
    | none => []
    | some format =>
      issueIf (!format.accepts s) path .invalidFormat
        (inQuotes s ++ " is not a valid " ++ format.name)) ++
    (match rules.minLength with
    | none => []
    | some low =>
      issueIf (s.length < low) path .tooShort
        ("length " ++ toString s.length ++ " is shorter than " ++ toString low)) ++
    (match rules.maxLength with
    | none => []
    | some high =>
      issueIf (high < s.length) path .tooLong
        ("length " ++ toString s.length ++ " is longer than " ++ toString high)) ++
    (match rules.pattern with
    | none => []
    | some pattern =>
      issueIf (!pattern.occursIn s) path .patternMismatch
        (inQuotes s ++ " does not match /" ++ pattern.source ++ "/"))
  | _ => [.wrongType path "string" j]

end StringRules

namespace Shape

private def inQuotes (s : String) : String := "\"" ++ s ++ "\""

/-- The issues of strings that are listed one by one. -/
def listedIssues (options : List String) (path : Path) (message : String → String) (j : Json) :
    List Issue :=
  match j with
  | .str s => issueIf (!options.contains s) path .invalidValue (message s)
  | _ => [.wrongType path "string" j]

/-- The issues of the elements of an array, of which the first has the index `i`. -/
def elementIssues (check : Path → Json → List Issue) (path : Path) : Nat → List Json → List Issue
  | _, [] => []
  | i, j :: rest => check (path ++ [.index i]) j ++ elementIssues check path (i + 1) rest

/-- The issues of keys that are not declared. -/
def unknownKeyIssues (fields : List (String × ShapeField)) (path : Path)
    (members : List (String × Json)) : List Issue :=
  members.flatMap fun (key, _) =>
    issueIf (!KeyMap.contains fields key) (path ++ [.key key]) .unknownKey "key is not declared"

mutual
/-- The issues of a value at a path, in the order of the shape. -/
def issues (path : Path) : Shape → Json → List Issue
  | anyObject, j => match j with
    | .obj _ => []
    | _ => [.wrongType path "object" j]
  | null, j => if j.isNull then [] else [.wrongType path "null" j]
  | boolean, j => match j with
    | .bool _ => []
    | _ => [.wrongType path "boolean" j]
  | number rules, j => rules.issues path j
  | string rules, j => rules.issues path j
  | literal text, j =>
    listedIssues [text] path (fun s => "expected " ++ inQuotes text ++ ", got " ++ inQuotes s) j
  | oneOf options, j =>
    listedIssues options path (fun s => inQuotes s ++ " is not one of " ++ quotedList options) j
  | array items, j => match j with
    | .arr elements => elementIssues (fun path => issues path items) path 0 elements
    | _ => [.wrongType path "array" j]
  | object ⟨fields, unknownKeys⟩, j => match j with
    | .obj members =>
      fieldIssues path members fields ++
        if unknownKeys = .reject then unknownKeyIssues fields path members else []
    | _ => [.wrongType path "object" j]
  | nullable inner, j => if j.isNull then [] else issues path inner j

/-- The issues of declared keys. -/
def fieldIssues (path : Path) (members : List (String × Json)) :
    List (String × ShapeField) → List Issue
  | [] => []
  | (key, ⟨shape, isOptional⟩) :: rest =>
    (match KeyMap.find? key members with
    | some j => issues (path ++ [.key key]) shape j
    | none =>
      issueIf (!isOptional) (path ++ [.key key]) .missingKey "required key is missing") ++
    fieldIssues path members rest
end

def check (shape : Shape) (j : Json) : Report := ⟨shape.issues [] j⟩

def accepts (shape : Shape) (j : Json) : Bool := (shape.check j).isValid

end Shape

namespace ObjectShape

def check (o : ObjectShape) (j : Json) : Report := Shape.check (.object o) j

def accepts (o : ObjectShape) (j : Json) : Bool := (o.check j).isValid

end ObjectShape
end RecordShape
