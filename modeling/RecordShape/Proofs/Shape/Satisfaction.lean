import RecordShape.Shape.Basic

/-!
# Satisfying a JSON Schema

What the keywords of exported schemas ask of a value. A keyword about numbers, strings, arrays or
objects asks nothing of other values, and a value has to satisfy every keyword that is present.
A schema can also be `true` or `false`.
-/

namespace RecordShape.JsonSchema

/-- The value is of the named type. A number without a fraction is an integer. -/
def HasType (name : String) : Json → Prop
  | .null => name = "null"
  | .bool _ => name = "boolean"
  | .num n => name = "number" ∨ (name = "integer" ∧ n.toDouble.isWhole = true)
  | .str _ => name = "string"
  | .arr _ => name = "array"
  | .obj _ => name = "object"

structure NumberKeywords (keywords : KeyMap Json) (n : Number) : Prop where
  minimum : ∀ low, keywords.find? "minimum" = some (.num low) → low.toDouble ≤ n.toDouble
  maximum : ∀ high, keywords.find? "maximum" = some (.num high) → n.toDouble ≤ high.toDouble

/-- Lengths are counted in characters, and a pattern may match anywhere. -/
structure StringKeywords (keywords : KeyMap Json) (text : String) : Prop where
  format : ∀ name format, keywords.find? "format" = some (.str name) →
    StringFormat.ofName? name = some format → format.accepts text = true
  minLength : ∀ low, keywords.find? "minLength" = some (.num (.int low)) → low ≤ text.length
  maxLength : ∀ high, keywords.find? "maxLength" = some (.num (.int high)) → text.length ≤ high
  pattern : ∀ source pattern, keywords.find? "pattern" = some (.str source) →
    Pattern.ofSource source = .ok pattern → pattern.occursIn text = true

/-- The schema has a schema of its own for the key. -/
def Declares (keywords : KeyMap Json) (key : String) : Prop :=
  ∃ properties sub, keywords.find? "properties" = some (.obj properties) ∧ (key, sub) ∈ properties

/-- The value satisfies the schema. -/
def Satisfies (schema x : Json) : Prop :=
  match schema with
  | .bool b => b = true
  | .obj keywords =>
    (∀ name, KeyMap.find? "type" keywords = some (.str name) → HasType name x) ∧
    (∀ value, KeyMap.find? "const" keywords = some value → x = value) ∧
    (∀ values, KeyMap.find? "enum" keywords = some (.arr values) → x ∈ values) ∧
    (∀ n, x = .num n → NumberKeywords keywords n) ∧
    (∀ text, x = .str text → StringKeywords keywords text) ∧
    (∀ elements, x = .arr elements → ∀ items, KeyMap.find? "items" keywords = some items →
      ∀ e ∈ elements, Satisfies items e) ∧
    (∀ members, x = .obj members →
      (∀ keys key, KeyMap.find? "required" keywords = some (.arr keys) → .str key ∈ keys →
        ∃ w, KeyMap.find? key members = some w) ∧
      (∀ properties, KeyMap.find? "properties" keywords = some (.obj properties) →
        ∀ key sub, (key, sub) ∈ properties → ∀ w, KeyMap.find? key members = some w →
          Satisfies sub w) ∧
      (∀ others, KeyMap.find? "additionalProperties" keywords = some others →
        ∀ key w, (key, w) ∈ members → ¬Declares keywords key → Satisfies others w)) ∧
    ∀ choices, KeyMap.find? "anyOf" keywords = some (.arr choices) →
      ∃ (choice : Json) (_ : choice ∈ choices), Satisfies choice x
  | _ => False
termination_by sizeOf schema
decreasing_by
  · exact Json.sizeOf_member_lt (KeyMap.mem_of_find?_eq_some ‹_›)
  · exact Nat.lt_trans (Json.sizeOf_member_lt ‹(_, _) ∈ _›)
      (Json.sizeOf_member_lt (KeyMap.mem_of_find?_eq_some ‹KeyMap.find? "properties" _ = _›))
  · exact Json.sizeOf_member_lt (KeyMap.mem_of_find?_eq_some ‹_›)
  · exact Nat.lt_trans (Json.sizeOf_element_lt ‹_›)
      (Json.sizeOf_member_lt (KeyMap.mem_of_find?_eq_some ‹KeyMap.find? "anyOf" _ = _›))

theorem satisfies_bool (b : Bool) (x : Json) : Satisfies (.bool b) x ↔ b = true := by
  rw [Satisfies]

end RecordShape.JsonSchema
