import RecordShape.Compile.Compiler
import RecordShape.Proofs.Schema.Nesting

/-!
# Compiling, kind by kind

Objects, arrays and fields that stand for an object are compiled from their parts. Each equation
gives the shape and the diagnostics at once.
-/

namespace RecordShape
namespace Compile

variable {options : CompileOptions} {follow : List String → String → Compiled Shape}

theorem model_object {m : Model} (hkind : m.kind = .object) (location : List String) :
    model options follow location m = do
      let fields ← fields options follow location m.required m.properties
      return nullable m.constraints (.object ⟨fields, options.unknownKeys⟩) := by
  cases m
  cases hkind
  rfl

theorem model_array {m : Model} (hkind : m.kind = .array) (location : List String) :
    model options follow location m = do
      let items ← items options follow location m.items
      return nullable m.constraints (.array items) := by
  cases m
  cases hkind
  rfl

theorem field_array {f : Field} (hkind : f.kind = .array) (location : List String) :
    field options follow location f = do
      let items ← items options follow location f.items
      return nullable f.constraints (.array items) := by
  cases f
  cases hkind
  rfl

theorem field_object {f : Field} (hobject : f.CountsAsObject) (location : List String) :
    field options follow location f = do
      let shape ← objectField options follow location f.pointer f.items
      return nullable f.constraints shape := by
  obtain ⟨kind, c, elements, pointer, description⟩ := f
  rcases hobject with hkind | ⟨hkind, hpointer⟩ <;> cases hkind
  · rfl
  · cases pointer with
    | none => exact absurd rfl hpointer
    | some pointer => rfl

theorem field_unknown {f : Field} {tag : String} (hkind : f.kind = .other tag)
    (hobject : ¬f.CountsAsObject) (location : List String) :
    field options follow location f = do
      let shape ← unknownKind location tag
      return nullable f.constraints shape := by
  obtain ⟨kind, c, elements, pointer, description⟩ := f
  cases hkind
  have htag : (tag.isEmpty && pointer.isSome) = false := by
    refine Bool.eq_false_iff.mpr fun h => hobject (.inr ?_)
    simpa [Option.isSome_iff_ne_none] using h
  simp only [field, htag, Bool.false_eq_true, if_false]

theorem value_string (location : List String) (c : Constraints) :
    (string location c).value =
      match c.stringValues with
      | [] => .string
          { format := c.format.bind StringFormat.ofName?
            minLength := c.minLength
            maxLength := c.maxLength
            pattern := (pattern location c.pattern).value }
      | [only] => .literal only
      | first :: second :: rest => .oneOf (first :: second :: rest) := by
  unfold string
  rcases c.stringValues with _ | ⟨only, _ | ⟨second, rest⟩⟩
  · cases c.hasUnusableValues <;> rfl
  · rfl
  · rfl

private theorem code_of_mem_pattern {location : List String} {source : Option String}
    {d : Diagnostic} (hd : d ∈ (pattern location source).diagnostics) :
    d.code = .invalidPattern := by
  unfold pattern at hd
  cases source with
  | none => cases hd
  | some source =>
    dsimp only at hd
    split at hd
    · cases hd
    · cases List.mem_singleton.mp hd
      rfl

theorem code_of_mem_string {location : List String} {c : Constraints} {d : Diagnostic}
    (hd : d ∈ (string location c).diagnostics) :
    d.code = .invalidPattern ∨ d.code = .emptyEnum := by
  have hpattern (h : d ∈ (pattern location c.pattern).diagnostics ++ []) :
      d.code = .invalidPattern ∨ d.code = .emptyEnum := by
    rw [List.append_nil] at h
    exact .inl (code_of_mem_pattern h)
  unfold string at hd
  split at hd
  · cases hd
  · cases hd
  · dsimp only at hd
    split at hd
    · rcases List.mem_cons.mp hd with rfl | hd
      · exact .inr rfl
      · exact hpattern hd
    · exact hpattern hd

/-- The shape of a kind without parts; objects and arrays have theirs from their parts. -/
def plain (location : List String) (c : Constraints) : TypeTag → Compiled Shape
  | .object | .array => pure .anyObject
  | .string => string location c
  | .number => pure (number false c)
  | .integer => pure (number true c)
  | .boolean => pure .boolean
  | .null => pure .null
  | .other tag => unknownKind location tag

theorem model_plain {m : Model} (hobject : m.kind ≠ .object) (harray : m.kind ≠ .array)
    (location : List String) :
    model options follow location m = do
      let shape ← plain location m.constraints m.kind
      return nullable m.constraints shape := by
  obtain ⟨kind, properties, required, elements, c, description⟩ := m
  cases kind with
  | object => exact absurd rfl hobject
  | array => exact absurd rfl harray
  | _ => rfl

theorem field_plain {f : Field} (hobject : ¬f.CountsAsObject) (harray : f.kind ≠ .array)
    (location : List String) :
    field options follow location f = do
      let shape ← plain location f.constraints f.kind
      return nullable f.constraints shape := by
  cases hkind : f.kind with
  | object => exact absurd (.inl hkind) hobject
  | array => exact absurd hkind harray
  | other tag => exact field_unknown hkind hobject location
  | _ =>
    obtain ⟨kind, c, elements, pointer, description⟩ := f
    cases hkind
    rfl

theorem objectField_pointer (location : List String) (target : String) (elements : Option Items) :
    objectField options follow location (some target) elements = follow location target := by
  rcases elements with _ | ⟨_ | _⟩ <;> rfl

theorem objectField_items (location : List String) (inner : Items) :
    objectField options follow location none (some inner) =
      items options follow location (some inner) := by
  cases inner <;> rfl

end Compile
end RecordShape
