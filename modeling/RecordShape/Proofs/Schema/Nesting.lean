import RecordShape.Graph.Occurrence

/-!
# Descriptions inside descriptions

Models hold fields, fields and models hold items, and items hold models. An argument about all
three goes by one induction, whose cases are named here.
-/

namespace RecordShape

theorem Model.sizeOf_property_lt {m : Model} {name : String} {f : Field}
    (h : (name, f) ∈ m.properties) : sizeOf f < sizeOf m := by
  have hlt := List.sizeOf_lt_of_mem h
  cases m
  simp only [Prod.mk.sizeOf_spec] at hlt
  simp only [Model.mk.sizeOf_spec]
  omega

/-- The cases of an induction over models, fields and items. -/
structure NestingCases (P : Model → Prop) (Q : Field → Prop) (R : Option Items → Prop) :
    Prop where
  model : ∀ m, (∀ name f, (name, f) ∈ m.properties → Q f) → R m.items → P m
  field : ∀ f, R f.items → Q f
  noItems : R none
  reference : ∀ pointer, R (some (.reference pointer))
  inline : ∀ m, P m → R (some (.inline m))

namespace NestingCases
variable {P : Model → Prop} {Q : Field → Prop} {R : Option Items → Prop}

mutual
theorem all_model (c : NestingCases P Q R) (m : Model) : P m :=
  c.model m (fun _ f _hf => all_field c f) (all_items c m.items)
termination_by sizeOf m
decreasing_by
  · exact Model.sizeOf_property_lt _hf
  · cases m
    simp only [Model.mk.sizeOf_spec]
    omega

theorem all_field (c : NestingCases P Q R) (f : Field) : Q f := c.field f (all_items c f.items)
termination_by sizeOf f
decreasing_by
  cases f
  simp only [Field.mk.sizeOf_spec]
  omega

theorem all_items (c : NestingCases P Q R) : ∀ items : Option Items, R items
  | none => c.noItems
  | some (.reference pointer) => c.reference pointer
  | some (.inline m) => c.inline m (all_model c m)
termination_by items => sizeOf items
end

end NestingCases

/-- The field stands for a model or a nested shape: its kind says so, or it has no kind but a
pointer. -/
def Field.CountsAsObject (f : Field) : Prop :=
  f.kind = .object ∨ (f.kind = .other "" ∧ f.pointer ≠ none)

namespace Occurrence

@[simp] theorem inFields_eq (site : Site) (properties : List (String × Field)) :
    inFields site properties = properties.flatMap fun p => inField (site ++ [.field p.1]) p.2 := by
  induction properties with
  | nil => rfl
  | cons p rest ih => simp only [inFields, List.flatMap_cons, ih]

theorem inModel_object {m : Model} (hkind : m.kind = .object) (site : Site) :
    inModel site m = m.properties.flatMap fun p => inField (site ++ [.field p.1]) p.2 := by
  cases m
  cases hkind
  rw [inModel, inFields_eq]

theorem inModel_array {m : Model} (hkind : m.kind = .array) (site : Site) :
    inModel site m = inItems (site ++ [.items]) m.items := by
  cases m
  cases hkind
  rfl

theorem inField_array {f : Field} (hkind : f.kind = .array) (site : Site) :
    inField site f = inItems (site ++ [.items]) f.items := by
  obtain ⟨kind, c, items, pointer, description⟩ := f
  cases hkind
  cases pointer <;> simp [inField, TypeTag.isUnspecified]

theorem inField_object {f : Field} (hobject : f.CountsAsObject) (site : Site) :
    inField site f = match f.pointer with
      | some pointer => [⟨site, pointer⟩]
      | none => inItems (site ++ [.items]) f.items := by
  obtain ⟨kind, c, items, pointer, description⟩ := f
  rcases hobject with hkind | ⟨hkind, hpointer⟩ <;> cases hkind
  · cases pointer <;> simp [inField]
  · cases pointer with
    | none => exact absurd rfl hpointer
    | some pointer => simp [inField, TypeTag.isUnspecified]

theorem inModel_other {m : Model} (hobject : m.kind ≠ .object) (harray : m.kind ≠ .array)
    (site : Site) : inModel site m = [] := by
  obtain ⟨kind, properties, required, items, c, description⟩ := m
  cases kind with
  | object => exact absurd rfl hobject
  | array => exact absurd rfl harray
  | _ => rfl

theorem inField_other {f : Field} (hobject : ¬f.CountsAsObject) (harray : f.kind ≠ .array)
    (site : Site) : inField site f = [] := by
  obtain ⟨kind, c, items, pointer, description⟩ := f
  have hkind : kind ≠ .object := fun h => hobject (.inl h)
  cases pointer with
  | none => simp_all [inField]
  | some pointer =>
    have hunspecified : kind ≠ .other "" := fun h => hobject (.inr ⟨h, by simp⟩)
    simp_all [inField, TypeTag.isUnspecified]

end Occurrence
end RecordShape
