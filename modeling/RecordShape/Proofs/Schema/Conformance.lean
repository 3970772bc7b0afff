import Mathlib.Tactic.SplitIfs
import RecordShape.Compile.Compiler
import RecordShape.Proofs.Schema.Nesting

/-!
# What a schema asks of a value

A model means a set of values, told from its description alone. References are followed without
any bound: every reference stands below a property or below array elements, so the value gets
smaller before the same model can come up again.
-/

namespace RecordShape

/-- The value is an object, whatever it holds. -/
def Json.IsObject (j : Json) : Prop := ∃ members, j = .obj members

/-- The names of the formats that are understood. -/
inductive StringFormat.HasName : StringFormat → String → Prop where
  | email : HasName .email "email"
  | uuid : HasName .uuid "uuid"
  | uri : HasName .url "uri"
  | url : HasName .url "url"
  | dateTime : HasName .dateTime "date-time"
  | date : HasName .date "date"

theorem StringFormat.ofName?_eq_some_iff {name : String} {format : StringFormat} :
    ofName? name = some format ↔ format.HasName name := by
  constructor
  · intro h
    unfold ofName? at h
    split_ifs at h with hemail huuid hurl hdateTime hdate
    · cases h
      exact hemail ▸ .email
    · cases h
      exact huuid ▸ .uuid
    · cases h
      rcases hurl with rfl | rfl
      · exact .uri
      · exact .url
    · cases h
      exact hdateTime ▸ .dateTime
    · cases h
      exact hdate ▸ .date
  · intro h
    cases h <;> decide

theorem Double.isWhole_iff {x : Double} :
    x.isWhole = true ↔ ∃ n : Int, x.scaled = n * (Double.one : Int) := by
  rw [isWhole, beq_iff_eq, ← Nat.dvd_iff_mod_eq_zero, ← Int.natCast_dvd_natCast]
  have hdvd : (one : Int) ∣ x.units ↔ (one : Int) ∣ x.scaled := by
    unfold scaled
    split
    · exact Int.dvd_neg.symm
    · exact Iff.rfl
  rw [hdvd]
  exact exists_congr fun n => by rw [Int.mul_comm]

namespace Constraints

/-- The string is one of the listed values. -/
def Lists (c : Constraints) (text : String) : Prop :=
  ∃ values, c.values = some values ∧ .str text ∈ values

theorem mem_stringValues {c : Constraints} {text : String} :
    text ∈ c.stringValues ↔ c.Lists text := by
  have hstring (j : Json) : j.string? = some text ↔ j = .str text := by
    cases j <;> simp [Json.string?]
  unfold stringValues Lists
  cases c.values <;> simp [hstring]

theorem stringValues_eq_nil_iff {c : Constraints} :
    c.stringValues = [] ↔ ∀ text, ¬c.Lists text := by
  simp only [List.eq_nil_iff_forall_not_mem, mem_stringValues]

/-- The string keeps every rule that can be understood. -/
structure KeepsRules (c : Constraints) (text : String) : Prop where
  format : ∀ name (format : StringFormat), c.format = some name → format.HasName name →
    format.accepts text = true
  minLength : ∀ low, c.minLength = some low → low ≤ text.length
  maxLength : ∀ high, c.maxLength = some high → text.length ≤ high
  pattern : ∀ source pattern, c.pattern = some source → Pattern.ofSource source = .ok pattern →
    pattern.occursIn text = true

/-- A string is one of the listed ones if there are any, and otherwise keeps the rules. -/
def AllowsString (c : Constraints) (j : Json) : Prop :=
  ∃ text, j = .str text ∧
    ((∃ listed, c.Lists listed) → c.Lists text) ∧
    ((∀ listed, ¬c.Lists listed) → c.KeepsRules text)

theorem allowsString_of_listed {c : Constraints} (h : ∃ listed, c.Lists listed) {j : Json} :
    c.AllowsString j ↔ ∃ text, j = .str text ∧ c.Lists text := by
  obtain ⟨listed, hlisted⟩ := h
  refine exists_congr fun text => and_congr_right fun _ => ⟨fun hboth => hboth.1 ⟨_, hlisted⟩, ?_⟩
  exact fun htext => ⟨fun _ => htext, fun hnone => absurd hlisted (hnone listed)⟩

theorem allowsString_of_unlisted {c : Constraints} (h : ∀ listed, ¬c.Lists listed) {j : Json} :
    c.AllowsString j ↔ ∃ text, j = .str text ∧ c.KeepsRules text := by
  refine exists_congr fun text => and_congr_right fun _ => ⟨fun hboth => hboth.2 h, ?_⟩
  exact fun hrules => ⟨fun ⟨listed, hlisted⟩ => absurd hlisted (h listed), fun _ => hrules⟩

/-- A number lies within the bounds, and has no fraction if it has to be whole. -/
def AllowsNumber (c : Constraints) (integer : Bool) (j : Json) : Prop :=
  ∃ n, j = .num n ∧
    (integer = true → ∃ whole : Int, n.toDouble.scaled = whole * (Double.one : Int)) ∧
    (∀ low, c.minimum = some low → low ≤ n.toDouble) ∧
    ∀ high, c.maximum = some high → n.toDouble ≤ high

end Constraints

namespace Schema
variable (s : Schema) (unknownKeys : UnknownKeys)

mutual
/-- The value is one that the model describes. -/
def Conforms (m : Model) (j : Json) : Prop :=
  (m.constraints.nullable = true ∧ j = .null) ∨
  match m.kind with
  | .object =>
    match j with
    | .obj members =>
      (∀ name field, (name, field) ∈ m.properties → name ∈ m.required →
        ∃ w, KeyMap.find? name members = some w) ∧
      (∀ name field, (name, field) ∈ m.properties →
        ∀ w, KeyMap.find? name members = some w → FieldConforms field w) ∧
      (unknownKeys = .reject → ∀ key w, (key, w) ∈ members →
        ∃ field, (key, field) ∈ m.properties)
    | _ => False
  | .array =>
    match j with
    | .arr elements => ∀ e ∈ elements, ItemsConform m.items e
    | _ => False
  | .string => m.constraints.AllowsString j
  | .number => m.constraints.AllowsNumber false j
  | .integer => m.constraints.AllowsNumber true j
  | .boolean => ∃ b, j = .bool b
  | .null => j = .null
  | .other _ => j.IsObject
termination_by (sizeOf j, 0)
decreasing_by
  · exact Prod.Lex.left _ _ (Json.sizeOf_member_lt (KeyMap.mem_of_find?_eq_some ‹_›))
  · exact Prod.Lex.left _ _ (Json.sizeOf_element_lt ‹_›)

/-- The value is one that the field describes. -/
def FieldConforms (f : Field) (j : Json) : Prop :=
  (f.constraints.nullable = true ∧ j = .null) ∨
  match f.kind with
  | .object => ObjectFieldConforms f j
  | .array =>
    match j with
    | .arr elements => ∀ e ∈ elements, ItemsConform f.items e
    | _ => False
  | .string => f.constraints.AllowsString j
  | .number => f.constraints.AllowsNumber false j
  | .integer => f.constraints.AllowsNumber true j
  | .boolean => ∃ b, j = .bool b
  | .null => j = .null
  | .other tag => if tag = "" ∧ f.pointer ≠ none then ObjectFieldConforms f j else j.IsObject
termination_by (sizeOf j, 4)
decreasing_by
  · exact Prod.Lex.right _ (by decide)
  · exact Prod.Lex.left _ _ (Json.sizeOf_element_lt ‹_›)
  · exact Prod.Lex.right _ (by decide)

/-- An object field stands for what it points at, else for its items, else for any object. -/
def ObjectFieldConforms (f : Field) (j : Json) : Prop :=
  match f.pointer, f.items with
  | some pointer, _ => PointerConforms pointer j
  | none, some items => ItemsConform (some items) j
  | none, none => j.IsObject
termination_by (sizeOf j, 3)
decreasing_by
  · exact Prod.Lex.right _ (by decide)
  · exact Prod.Lex.right _ (by decide)

/-- The value is one that the items describe; items that are not described are lists of objects. -/
def ItemsConform (items : Option Items) (j : Json) : Prop :=
  match items with
  | none => ∃ elements, j = .arr elements ∧ ∀ e ∈ elements, e.IsObject
  | some (.reference pointer) => PointerConforms pointer j
  | some (.inline m) => Conforms m j
termination_by (sizeOf j, 2)
decreasing_by
  · exact Prod.Lex.right _ (by decide)
  · exact Prod.Lex.right _ (by decide)

/-- A pointer stands for the model it names, and for any object if there is no such model. -/
def PointerConforms (pointer : String) (j : Json) : Prop :=
  match s.model? (Pointer.modelName pointer) with
  | none => j.IsObject
  | some target => Conforms target j
termination_by (sizeOf j, 1)
decreasing_by
  · exact Prod.Lex.right _ (by decide)
end

variable {s unknownKeys}

theorem conforms_object {m : Model} (hkind : m.kind = .object) (j : Json) :
    s.Conforms unknownKeys m j ↔ (m.constraints.nullable = true ∧ j = .null) ∨
      ∃ members, j = .obj members ∧
        (∀ name field, (name, field) ∈ m.properties → name ∈ m.required →
          ∃ w, KeyMap.find? name members = some w) ∧
        (∀ name field, (name, field) ∈ m.properties →
          ∀ w, KeyMap.find? name members = some w → s.FieldConforms unknownKeys field w) ∧
        (unknownKeys = .reject → ∀ key w, (key, w) ∈ members →
          ∃ field, (key, field) ∈ m.properties) := by
  rw [Conforms.eq_def, hkind]
  cases j <;> simp

theorem conforms_array {m : Model} (hkind : m.kind = .array) (j : Json) :
    s.Conforms unknownKeys m j ↔ (m.constraints.nullable = true ∧ j = .null) ∨
      ∃ elements, j = .arr elements ∧ ∀ e ∈ elements, s.ItemsConform unknownKeys m.items e := by
  rw [Conforms.eq_def, hkind]
  cases j <;> simp

theorem fieldConforms_array {f : Field} (hkind : f.kind = .array) (j : Json) :
    s.FieldConforms unknownKeys f j ↔ (f.constraints.nullable = true ∧ j = .null) ∨
      ∃ elements, j = .arr elements ∧ ∀ e ∈ elements, s.ItemsConform unknownKeys f.items e := by
  rw [FieldConforms.eq_def, hkind]
  cases j <;> simp

theorem fieldConforms_object {f : Field} (hobject : f.CountsAsObject) (j : Json) :
    s.FieldConforms unknownKeys f j ↔
      (f.constraints.nullable = true ∧ j = .null) ∨ s.ObjectFieldConforms unknownKeys f j := by
  rw [FieldConforms.eq_def]
  rcases hobject with hkind | ⟨hkind, hpointer⟩
  · simp only [hkind]
  · simp only [hkind, hpointer, ne_eq, not_false_eq_true, and_self, if_true]

theorem fieldConforms_unknown {f : Field} {tag : String} (hkind : f.kind = .other tag)
    (hobject : ¬f.CountsAsObject) (j : Json) :
    s.FieldConforms unknownKeys f j ↔
      (f.constraints.nullable = true ∧ j = .null) ∨ j.IsObject := by
  have htag : ¬(tag = "" ∧ f.pointer ≠ none) := by
    intro h
    obtain ⟨rfl, hpointer⟩ := h
    exact hobject (.inr ⟨hkind, hpointer⟩)
  rw [FieldConforms.eq_def]
  simp only [hkind, htag, if_false]

end Schema
end RecordShape
