import RecordShape.Json.Basic
import RecordShape.Decimal.Shortest
import RecordShape.Text.Quoted

/-!
# Why a value could not be read

A `ReadError` names the place by the steps that lead to it, the cause, and the position when the
value came from a text. Positions count lines from one and bytes within the line from zero.
-/

namespace RecordShape

/-- One step from a value to a part of it. `unknown` stands for a member whose name is broken. -/
inductive Step where
  | key (name : String)
  | index (i : Nat)
  | unknown
  deriving DecidableEq

structure Position where
  line : Nat
  column : Nat
  deriving DecidableEq

/-- The faults of a JSON text. -/
inductive SyntaxFault where
  | endInList
  | endInObject
  | endInString
  | endInValue
  | expectedColon
  | expectedListEnd
  | expectedObjectEnd
  | expectedWord
  | expectedValue
  | invalidEscape
  | invalidNumber
  | numberOutOfRange
  | controlCharacter
  | nameNotString
  | loneSurrogate
  | trailingComma
  | trailingCharacters
  | unfinishedSurrogatePair
  | nestingTooDeep
  deriving DecidableEq

namespace SyntaxFault

def message : SyntaxFault → String
  | endInList => "EOF while parsing a list"
  | endInObject => "EOF while parsing an object"
  | endInString => "EOF while parsing a string"
  | endInValue => "EOF while parsing a value"
  | expectedColon => "expected `:`"
  | expectedListEnd => "expected `,` or `]`"
  | expectedObjectEnd => "expected `,` or `\x7d`"
  | expectedWord => "expected ident"
  | expectedValue => "expected value"
  | invalidEscape => "invalid escape"
  | invalidNumber => "invalid number"
  | numberOutOfRange => "number out of range"
  | controlCharacter => "control character (\\u0000-\\u001F) found while parsing a string"
  | nameNotString => "key must be a string"
  | loneSurrogate => "lone leading surrogate in hex escape"
  | trailingComma => "trailing comma"
  | trailingCharacters => "trailing characters"
  | unfinishedSurrogatePair => "unexpected end of hex escape"
  | nestingTooDeep => "recursion limit exceeded"

end SyntaxFault

/-- What stood where something else was expected. -/
inductive Found where
  | null
  | bool (value : Bool)
  | int (value : Int)
  | double (value : Double)
  | str (value : String)
  | list
  | object
  | bareName
  deriving DecidableEq

namespace Found

def ofJson : Json → Found
  | .null => null
  | .bool b => bool b
  | .num (.int n) => int n
  | .num (.double x) => double x
  | .str s => str s
  | .arr _ => list
  | .obj _ => object

def describe : Found → String
  | null => "null"
  | bool b => "boolean `" ++ (if b then "true" else "false") ++ "`"
  | int n => "integer `" ++ toString n ++ "`"
  | double x => "floating point `" ++ DecimalLayout.json.write x ++ "`"
  | str s => "string " ++ quoted s
  | list => "sequence"
  | object => "map"
  | bareName => "unit variant"

end Found

inductive Cause where
  | invalidType (found : Found) (expected : String)
  | invalidValue (found : Found) (expected : String)
  | invalidLength (length : Nat) (expected : String)
  | unknownVariant (name : String) (known : List String)
  | missingField (key : String)
  | duplicateField (key : String)
  | noVariant (type : String)
  | malformed (fault : SyntaxFault)
  deriving DecidableEq

namespace Cause

private def backquoted (s : String) : String := "`" ++ s ++ "`"

def message : Cause → String
  | invalidType found expected => "invalid type: " ++ found.describe ++ ", expected " ++ expected
  | invalidValue found expected => "invalid value: " ++ found.describe ++ ", expected " ++ expected
  | invalidLength n expected => "invalid length " ++ toString n ++ ", expected " ++ expected
  | unknownVariant name known =>
    "unknown variant " ++ backquoted name ++ ", expected " ++
      match known.map backquoted with
      | [] => "no variants"
      | [a] => a
      | [a, b] => a ++ " or " ++ b
      | all => "one of " ++ ", ".intercalate all
  | missingField key => "missing field " ++ backquoted key
  | duplicateField key => "duplicate field " ++ backquoted key
  | noVariant type => "data did not match any variant of untagged enum " ++ type
  | malformed fault => fault.message

end Cause

structure ReadError where
  cause : Cause
  path : List Step := []
  position : Option Position := none
  deriving DecidableEq

namespace ReadError

def message (e : ReadError) : String :=
  e.cause.message ++
    match e.position with
    | none => ""
    | some p => " at line " ++ toString p.line ++ " column " ++ toString p.column

private def stepText (first : Bool) : Step → String
  | .key name => (if first then "" else ".") ++ name
  | .index i => "[" ++ toString i ++ "]"
  | .unknown => (if first then "" else ".") ++ "?"

/-- The place as text: names joined by dots, indices in brackets, `.` for the whole value. -/
def pathText (e : ReadError) : String :=
  match e.path with
  | [] => "."
  | step :: rest => stepText true step ++ String.join (rest.map (stepText false))

end ReadError

/-- A result that may fail to be read. -/
abbrev Read (α : Type) := Except ReadError α

namespace Read
variable {α : Type}

def fail (cause : Cause) : Read α := .error { cause }

/-- The value is not of the expected kind. -/
def mismatch (expected : String) (j : Json) : Read α := fail (.invalidType (.ofJson j) expected)

/-- Reads a part, so that an error inside it also names the step to the part. -/
def within (step : Step) : Read α → Read α
  | .ok a => .ok a
  | .error e => .error { e with path := step :: e.path }

/-- Drops the place of an error, which then counts for the whole value. -/
def unplaced : Read α → Read α
  | .ok a => .ok a
  | .error e => .error { e with path := [] }

end Read
end RecordShape
