import RecordShape.Schema.Basic

/-!
# Writing a schema as a JSON value

Names come in increasing order. Parts that are absent, empty lists and flags that are off are left
out; the kind of a field or model is always written, as the empty text when there is none.
-/

namespace RecordShape

namespace Json

/-- A member that is left out when there is no value. -/
def optionalMember (key : String) : Option Json → List (String × Json)
  | none => []
  | some j => [(key, j)]

/-- A member that is left out when the list is empty. -/
def listMember (key : String) (items : List Json) : List (String × Json) :=
  if items.isEmpty then [] else [(key, arr items)]

/-- A member that is left out unless it is true. -/
def flagMember (key : String) (flag : Bool) : List (String × Json) :=
  if flag then [(key, bool true)] else []

end Json

open Json (optionalMember listMember flagMember)

def TypeTag.toJson (tag : TypeTag) : Json := .str tag.name

namespace Constraints

/-- The constraints whose names come before `items`. -/
def leadingMembers (c : Constraints) : List (String × Json) :=
  optionalMember "enum" (c.values.map Json.arr) ++ optionalMember "format" (c.format.map Json.str)

/-- The constraints whose names come after `items`. -/
def trailingMembers (c : Constraints) : List (String × Json) :=
  optionalMember "maxLength" (c.maxLength.map Json.ofNat) ++
  optionalMember "maximum" (c.maximum.map fun x => .num (.double x)) ++
  optionalMember "minLength" (c.minLength.map Json.ofNat) ++
  optionalMember "minimum" (c.minimum.map fun x => .num (.double x)) ++
  flagMember "nullable" c.nullable ++
  optionalMember "pattern" (c.pattern.map Json.str)

def toJson (c : Constraints) : Json := .obj (c.leadingMembers ++ c.trailingMembers)

end Constraints

mutual
def Items.toJson : Items → Json
  | .reference pointer => .obj [("$ref", .str pointer)]
  | .inline model => model.toJson

def Field.toJson : Field → Json
  | ⟨kind, constraints, items, pointer, description⟩ =>
    .obj (optionalMember "$ref" (pointer.map Json.str) ++
      optionalMember "description" (description.map Json.str) ++
      constraints.leadingMembers ++ itemsMember items ++ constraints.trailingMembers ++
      [("type", kind.toJson)])

def Model.toJson : Model → Json
  | ⟨kind, properties, required, items, constraints, description⟩ =>
    .obj (optionalMember "description" (description.map Json.str) ++
      constraints.leadingMembers ++ itemsMember items ++ constraints.trailingMembers ++
      propertiesMember properties ++ listMember "required" (required.map Json.str) ++
      [("type", kind.toJson)])

def itemsMember : Option Items → List (String × Json)
  | none => []
  | some items => [("items", items.toJson)]

def propertiesMember : List (String × Field) → List (String × Json)
  | [] => []
  | (name, field) :: rest => [("properties", .obj ((name, field.toJson) :: fieldMembersOf rest))]

def fieldMembersOf : List (String × Field) → List (String × Json)
  | [] => []
  | (name, field) :: rest => (name, field.toJson) :: fieldMembersOf rest
end

def RelationshipEnd.toJson : RelationshipEnd → Json
  | .model name => .str name
  | .field name part => .obj (optionalMember "field" (part.map Json.str) ++ [("model", .str name)])

def Relationship.toJson (r : Relationship) : Json :=
  .obj (optionalMember "field" (r.field.map Json.str) ++ [("from", r.source.toJson)] ++
    flagMember "required" r.required ++ [("to", r.target.toJson)] ++
    optionalMember "type" (r.kind.map Json.str))

def Schema.toJson (s : Schema) : Json :=
  .obj (("models", .obj (s.models.map fun m => (m.1, m.2.toJson))) ::
    listMember "relationships" (s.relationships.map Relationship.toJson))

end RecordShape
