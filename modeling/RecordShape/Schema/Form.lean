import RecordShape.Schema.Reading
import RecordShape.Reading.Form

/-!
# Schemas as text

The forms of the parts of a schema. Reading a text by a form finds the place of the first error;
the value that comes of it is then read as usual. Errors among constraints and in items show up
only when the whole field, model or item has been read.
-/

namespace RecordShape

namespace Read

/-- Why a value cannot be read. -/
def cause? {α : Type} : Read α → Option Cause
  | .ok _ => none
  | .error e => some e.cause

end Read

namespace Form

def items : Form := judged fun j => (Items.ofJson j).cause?

def field : Form :=
  extended "FieldDescriptor"
    [("type", any), ("items", optional items), ("$ref", optional text),
      ("description", optional text)]
    fun j => (Field.ofJson j).cause?

def model : Form :=
  extended "ModelDescriptor"
    [("type", any), ("properties", table field), ("required", list text),
      ("items", optional items), ("description", optional text)]
    fun j => (Model.ofJson j).cause?

def constraints : Form :=
  record "Constraints"
    [("format", optional text), ("enum", optional (list any)), ("minimum", optional double),
      ("maximum", optional double), ("minLength", optional size), ("maxLength", optional size),
      ("pattern", optional text), ("nullable", flag)]
    []

def relationshipEnd : Form := judged fun j => (RelationshipEnd.ofJson j).cause?

def relationship : Form :=
  record "Relationship"
    [("from", relationshipEnd), ("to", relationshipEnd), ("field", optional text),
      ("type", optional text), ("required", flag)]
    []

def pointer : Form := record "ReferenceDescriptor" [("$ref", text)] ["$ref"]

def schema : Form :=
  record "SchemaDescriptor" [("models", table model), ("relationships", any)] []

end Form

/-- Reads a schema from a text and says how much of the text is left. -/
def Schema.scan : Scan Schema := do
  let j ← Form.schema.read Scan.nestingLimit
  match Schema.ofJson j with
  | .ok s => return s
  | .error e => Scan.fail e.cause

/-- Why a schema cannot be loaded. What follows a complete schema in a text is an error of its
own kind. -/
inductive LoadError where
  | descriptor (error : ReadError)
  | text (error : ReadError)

namespace LoadError

def message : LoadError → String
  | descriptor e => "Invalid schema descriptor at " ++ e.pathText ++ ": " ++ e.message
  | text e => "JSON error: " ++ e.message

end LoadError

namespace Schema

def ofValue (j : Json) : Except LoadError Schema := (ofJson j).mapError .descriptor

def ofText (text : String) : Except LoadError Schema :=
  match EStateM.run scan text.toList with
  | .error e _ => .error (.descriptor (e.locate text.toList))
  | .ok s rest =>
    match EStateM.run Scan.finished rest with
    | .ok _ _ => .ok s
    | .error e _ => .error (.text (e.locate text.toList))

end Schema
end RecordShape
