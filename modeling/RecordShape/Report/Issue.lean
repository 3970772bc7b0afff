import RecordShape.Report.Path

/-!
# Issues and reports

Checking a value gives a report: the issues found, each with its place and kind. A value without
issues is valid.
-/

namespace RecordShape

inductive IssueCode where
  | invalidType
  | missingKey
  | unknownKey
  | notInteger
  | tooSmall
  | tooLarge
  | tooShort
  | tooLong
  | invalidFormat
  | patternMismatch
  | invalidValue
  deriving DecidableEq, Inhabited

namespace IssueCode

def all : List IssueCode :=
  [invalidType, missingKey, unknownKey, notInteger, tooSmall, tooLarge, tooShort, tooLong,
    invalidFormat, patternMismatch, invalidValue]

def name : IssueCode → String
  | invalidType => "invalid_type"
  | missingKey => "missing_key"
  | unknownKey => "unknown_key"
  | notInteger => "not_integer"
  | tooSmall => "too_small"
  | tooLarge => "too_large"
  | tooShort => "too_short"
  | tooLong => "too_long"
  | invalidFormat => "invalid_format"
  | patternMismatch => "pattern_mismatch"
  | invalidValue => "invalid_value"

def ofName? (name : String) : Option IssueCode := all.find? fun code => code.name = name

def toJson (code : IssueCode) : Json := .str code.name

instance : Formed IssueCode where
  form := .choice (all.map name)
  build j := (j.string?.bind ofName?).getD default

end IssueCode

structure Issue where
  path : Path
  code : IssueCode
  message : String
  deriving DecidableEq, Inhabited

namespace Issue

def text (issue : Issue) : String :=
  issue.path.text ++ ": " ++ issue.message ++ " (" ++ issue.code.name ++ ")"

def toJson (issue : Issue) : Json :=
  .obj [("code", issue.code.toJson), ("message", .str issue.message),
    ("path", .arr (issue.path.map PathSegment.toJson))]

instance : Formed Issue where
  form := .record "Issue"
    [("path", .list (Formed.form PathSegment)), ("code", Formed.form IssueCode),
      ("message", .text)] ["path", "code", "message"]
  build j :=
    { path := Formed.buildList "path" j
      code := Formed.buildAt default "code" j
      message := j.textAt "message" }

end Issue

structure Report where
  issues : List Issue := []
  deriving DecidableEq, Inhabited

namespace Report

def isValid (report : Report) : Bool := report.issues.isEmpty

def withCode (report : Report) (code : IssueCode) : List Issue :=
  report.issues.filter (·.code = code)

/-- Some issue has exactly this path text. -/
def hasIssueAt (report : Report) (path : String) : Bool :=
  report.issues.any (·.path.text = path)

def text (report : Report) : String :=
  if report.isValid then "valid" else "\n".intercalate (report.issues.map Issue.text)

def toJson (report : Report) : Json := .obj [("issues", .arr (report.issues.map Issue.toJson))]

instance : Formed Report where
  form := .record "CheckReport" [("issues", .list (Formed.form Issue))] ["issues"]
  build j := { issues := Formed.buildList "issues" j }

end Report
end RecordShape
