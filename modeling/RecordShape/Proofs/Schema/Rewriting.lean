import RecordShape.Format.Basic
import RecordShape.Pattern.Basic
import RecordShape.Schema.Basic
import RecordShape.Schema.Pointer

/-!
# Rewriting descriptions

Rules say what may be put in the place of a schema, a model, a field or items. A rewriting step
uses a rule at one place, however deep that place is nested.
-/

namespace RecordShape

/-- What may be replaced by what. -/
structure Rules where
  schema : Schema → Schema → Prop
  model : Model → Model → Prop
  field : Field → Field → Prop
  items : Items → Items → Prop

mutual
/-- A rule is used once somewhere in a model. -/
inductive Model.Rewrites (R : Rules) : Model → Model → Prop
  | here {m m' : Model} (h : R.model m m') : Model.Rewrites R m m'
  | property {m : Model} (before after : List (String × Field)) {name : String} {f f' : Field}
      (hm : m.properties = before ++ (name, f) :: after) (h : Field.Rewrites R f f') :
      Model.Rewrites R m { m with properties := before ++ (name, f') :: after }
  | items {m : Model} {i i' : Items} (hm : m.items = some i) (h : Items.Rewrites R i i') :
      Model.Rewrites R m { m with items := some i' }

/-- A rule is used once somewhere in a field. -/
inductive Field.Rewrites (R : Rules) : Field → Field → Prop
  | here {f f' : Field} (h : R.field f f') : Field.Rewrites R f f'
  | items {f : Field} {i i' : Items} (hf : f.items = some i) (h : Items.Rewrites R i i') :
      Field.Rewrites R f { f with items := some i' }

/-- A rule is used once somewhere in items. -/
inductive Items.Rewrites (R : Rules) : Items → Items → Prop
  | here {i i' : Items} (h : R.items i i') : Items.Rewrites R i i'
  | inline {m m' : Model} (h : Model.Rewrites R m m') :
      Items.Rewrites R (.inline m) (.inline m')
end

/-- A rule is used once somewhere in a schema. -/
inductive Schema.Rewrites (R : Rules) : Schema → Schema → Prop
  | here {s s' : Schema} (h : R.schema s s') : Schema.Rewrites R s s'
  | model {s : Schema} (before after : List (String × Model)) {name : String} {m m' : Model}
      (hs : s.models = before ++ (name, m) :: after) (h : Model.Rewrites R m m') :
      Schema.Rewrites R s { s with models := before ++ (name, m') :: after }

/-- Rules for constraints, wherever a model or a field has them. -/
def Rules.ofConstraints (C : Constraints → Constraints → Prop) : Rules where
  schema _ _ := False
  model m m' := ∃ c, C m.constraints c ∧ m' = { m with constraints := c }
  field f f' := ∃ c, C f.constraints c ∧ f' = { f with constraints := c }
  items _ _ := False

/-! ## Parts that do not matter -/

/-- Formats that are not known, two names of one format, and values beside strings. -/
inductive Constraints.Unseen : Constraints → Constraints → Prop
  | unknownFormat {c : Constraints} {name : String} (hc : c.format = some name)
      (hname : StringFormat.ofName? name = none) : Unseen c { c with format := none }
  | uri {c : Constraints} (hc : c.format = some "uri") : Unseen c { c with format := some "url" }
  | url {c : Constraints} (hc : c.format = some "url") : Unseen c { c with format := some "uri" }
  | values {c : Constraints} {values values' : List Json} (hc : c.values = some values)
      (hstring : values.filterMap Json.string? ≠ [])
      (hsame : values'.filterMap Json.string? = values.filterMap Json.string?) :
      Unseen c { c with values := some values' }

/-- Descriptions, and whatever required names do not tell about the properties. -/
inductive Model.Unseen : Model → Model → Prop
  | description {m : Model} (description : Option String) : Unseen m { m with description }
  | required {m : Model} (required : List String)
      (h : ∀ p ∈ m.properties, p.1 ∈ required ↔ p.1 ∈ m.required) : Unseen m { m with required }

/-- Descriptions, other pointers to the same model, whether a field with a pointer is said to be an
object, and the items of an object with a pointer. -/
inductive Field.Unseen : Field → Field → Prop
  | description {f : Field} (description : Option String) : Unseen f { f with description }
  | pointer {f : Field} {pointer pointer' : String} (hf : f.pointer = some pointer)
      (hsame : Pointer.modelName pointer' = Pointer.modelName pointer) :
      Unseen f { f with pointer := some pointer' }
  | toObject {f : Field} (hkind : f.kind = .other "") (hf : f.pointer ≠ none) :
      Unseen f { f with kind := .object }
  | ofObject {f : Field} (hkind : f.kind = .object) (hf : f.pointer ≠ none) :
      Unseen f { f with kind := .other "" }
  | items {f : Field} (hkind : f.kind = .object) (hf : f.pointer ≠ none) (items : Option Items) :
      Unseen f { f with items }

/-- Other pointers to the same model. -/
inductive Items.Unseen : Items → Items → Prop
  | pointer {pointer pointer' : String}
      (hsame : Pointer.modelName pointer' = Pointer.modelName pointer) :
      Unseen (.reference pointer) (.reference pointer')

/-- What does not matter anywhere in a schema; the relationships do not matter either. -/
def Rules.unseen : Rules where
  schema s s' := ∃ relationships, s' = { s with relationships }
  model m m' := m.Unseen m' ∨ (Rules.ofConstraints Constraints.Unseen).model m m'
  field f f' := f.Unseen f' ∨ (Rules.ofConstraints Constraints.Unseen).field f f'
  items := Items.Unseen

/-! ## Parts that are only noted -/

/-- A pattern that cannot be understood is dropped. -/
inductive Constraints.DropsPattern : Constraints → Constraints → Prop
  | intro {c : Constraints} {source message : String} (hc : c.pattern = some source)
      (hsource : Pattern.ofSource source = .error message) :
      DropsPattern c { c with pattern := none }

/-- Listed values none of which is a string are dropped. -/
inductive Constraints.DropsValues : Constraints → Constraints → Prop
  | intro {c : Constraints} (hc : c.hasUnusableValues = true) :
      DropsValues c { c with values := none }

end RecordShape
