import RecordShape.Shape.Basic

/-!
# Shapes as JSON Schema

Every shape has its own rendering. Whole bounds below `2 ^ 63` are written as integers.
-/

namespace RecordShape
attribute [local instance (high)] instPowNat

/-- A bound as a number of the exported schema. -/
def Double.toBound (x : Double) : Json :=
  if x.isWhole ∧ x.truncate.natAbs < 2 ^ (63 : Nat) then .num (.int x.truncate)
  else .num (.double x)

namespace NumberRules

def toSchema (rules : NumberRules) : Json :=
  .ofMembers
    [("maximum", rules.maximum.map Double.toBound),
      ("minimum", rules.minimum.map Double.toBound),
      ("type", some (.str (if rules.integer then "integer" else "number")))]

end NumberRules

namespace StringRules

def toSchema (rules : StringRules) : Json :=
  .ofMembers
    [("format", rules.format.map fun format => .str format.name),
      ("maxLength", rules.maxLength.map Json.ofNat),
      ("minLength", rules.minLength.map Json.ofNat),
      ("pattern", rules.pattern.map fun pattern => .str pattern.source),
      ("type", some (.str "string"))]

end StringRules

namespace Shape

mutual
def toSchema : Shape → Json
  | anyObject => .obj [("additionalProperties", .bool true), ("type", .str "object")]
  | null => .obj [("type", .str "null")]
  | boolean => .obj [("type", .str "boolean")]
  | number rules => rules.toSchema
  | string rules => rules.toSchema
  | literal text => .obj [("const", .str text), ("type", .str "string")]
  | oneOf options => .obj [("enum", .strings options), ("type", .str "string")]
  | array items => .obj [("items", toSchema items), ("type", .str "array")]
  | object ⟨fields, unknownKeys⟩ =>
    .obj [("additionalProperties", .bool (unknownKeys = .allow)),
      ("properties", .obj (propertySchemas fields)),
      ("required", .strings (requiredKeys fields)), ("type", .str "object")]
  | nullable inner => .obj [("anyOf", .arr [toSchema inner, .obj [("type", .str "null")]])]

def propertySchemas : List (String × ShapeField) → List (String × Json)
  | [] => []
  | (key, ⟨shape, _⟩) :: rest => (key, toSchema shape) :: propertySchemas rest

/-- The keys that must be present, in key order. -/
def requiredKeys : List (String × ShapeField) → List String
  | [] => []
  | (key, ⟨_, isOptional⟩) :: rest =>
    if isOptional then requiredKeys rest else key :: requiredKeys rest
end

end Shape

def ObjectShape.toSchema (o : ObjectShape) : Json := Shape.toSchema (.object o)

end RecordShape
