import RecordShape.Json.Printer

/-!
# Schema descriptions

A schema holds named models. A model is an object with fields, an array or a primitive; a field
has a kind, constraints, and may point at another model. Inline models nest in the items of a
field or model. Relationships are carried along and never looked into.
-/

namespace RecordShape

/-- The declared kind of a model or field. A kind that is not known is kept as written; a missing
one is the empty text. -/
inductive TypeTag where
  | object
  | array
  | string
  | number
  | integer
  | boolean
  | null
  | other (tag : String)
  deriving DecidableEq, Inhabited

namespace TypeTag

def ofName (name : String) : TypeTag :=
  if name = "object" then object
  else if name = "array" then array
  else if name = "string" then string
  else if name = "number" then number
  else if name = "integer" then integer
  else if name = "boolean" then boolean
  else if name = "null" then null
  else other name

def name : TypeTag → String
  | object => "object"
  | array => "array"
  | string => "string"
  | number => "number"
  | integer => "integer"
  | boolean => "boolean"
  | null => "null"
  | other tag => tag

/-- No kind was declared. -/
def isUnspecified (tag : TypeTag) : Bool := tag = other ""

def describe (tag : TypeTag) : String := if tag.isUnspecified then "<unspecified>" else tag.name

end TypeTag

/-- The constraints that fields and primitive models share. Their bounds are finite, as all bounds
are that JSON can state. -/
structure Constraints where
  format : Option String := none
  values : Option (List Json) := none
  minimum : Option Double := none
  maximum : Option Double := none
  minLength : Option Nat := none
  maxLength : Option Nat := none
  pattern : Option String := none
  nullable : Bool := false
  deriving DecidableEq, Inhabited

namespace Constraints

/-- The listed values that are strings, in order. -/
def stringValues (c : Constraints) : List String := (c.values.getD []).filterMap Json.string?

/-- Values are listed, but none of them is a string. -/
def hasUnusableValues (c : Constraints) : Bool := c.values.isSome && c.stringValues.isEmpty

end Constraints

mutual
/-- The shape of array elements, or the nested shape of an object field. -/
inductive Items where
  | reference (pointer : String)
  | inline (model : Model)

/-- One property of an object model. -/
structure Field where
  kind : TypeTag := .other ""
  constraints : Constraints := {}
  items : Option Items := none
  pointer : Option String := none
  description : Option String := none

/-- One named or inline type. The required names need not be properties. -/
structure Model where
  kind : TypeTag := .other ""
  properties : List (String × Field) := []
  required : List String := []
  items : Option Items := none
  constraints : Constraints := {}
  description : Option String := none
end

instance : Inhabited Field := ⟨{}⟩
instance : Inhabited Model := ⟨{}⟩
instance : Inhabited Items := ⟨.inline {}⟩

namespace Field

/-- A field that points at another model. -/
def toModel (pointer : String) : Field := { kind := .object, pointer := some pointer }

def asNullable (f : Field) : Field :=
  { f with constraints := { f.constraints with nullable := true } }

end Field

namespace Model

def isRequired (m : Model) (name : String) : Bool := m.required.contains name

/-- An object model with a property: its values can be rows of a fixture document. -/
def isFixture (m : Model) : Bool := m.kind = .object && !m.properties.isEmpty

def withProperty (m : Model) (name : String) (field : Field) : Model :=
  { m with properties := KeyMap.insert name field m.properties }

def withRequired (m : Model) (name : String) (field : Field) : Model :=
  { m.withProperty name field with required := m.required ++ [name] }

end Model

/-- One side of a relationship. -/
inductive RelationshipEnd where
  | model (name : String)
  | field (model : String) (field : Option String)
  deriving DecidableEq, Inhabited

namespace RelationshipEnd

def modelName : RelationshipEnd → String
  | .model name => name
  | .field name _ => name

end RelationshipEnd

structure Relationship where
  source : RelationshipEnd := .model ""
  target : RelationshipEnd := .model ""
  field : Option String := none
  kind : Option String := none
  required : Bool := false
  deriving DecidableEq, Inhabited

structure Schema where
  models : KeyMap Model := []
  relationships : List Relationship := []
  deriving Inhabited

namespace Schema

def model? (s : Schema) (name : String) : Option Model := s.models.find? name

def withModel (s : Schema) (name : String) (model : Model) : Schema :=
  { s with models := s.models.insert name model }

/-- The models whose values are the rows of fixture documents, in key order. -/
def fixtureNames (s : Schema) : List String :=
  (s.models.filter fun m => m.2.isFixture).map Prod.fst

end Schema
end RecordShape
