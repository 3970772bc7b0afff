import RecordShape.Proofs.Compile.Equations
import RecordShape.Proofs.Compile.Resolution
import RecordShape.Proofs.Shape.Acceptance

/-!
# Two runs compared

What a pointer is followed to becomes a part of the shape of the model, and its diagnostics become
a part of those of the model. So two runs that are alike at the references of a model are alike at
the model, whatever being alike means, as long as arrays, objects and nullable shapes inherit it.
-/

namespace RecordShape

/-- The first shape accepts nothing but what the second accepts. -/
def Shape.Within (a b : Shape) : Prop := ∀ j, a.accepts j = true → b.accepts j = true

/-- Relations between the shapes and the diagnostics of two runs that pass on from the parts to
the whole, where each run treats undeclared keys in its own way. -/
structure Comparison (keys keys' : UnknownKeys) (R : Shape → Shape → Prop)
    (D : List Diagnostic → List Diagnostic → Prop) : Prop where
  atom : ∀ shape : Shape, shape.IsAtom → R shape shape
  array : ∀ a b, R a b → R (.array a) (.array b)
  orNull : ∀ a b, R a b → R a.orNull b.orNull
  object : ∀ {ι : Type} (entries : List ι) (key : ι → String) (isOptional : ι → Bool)
    (a b : ι → Shape), (∀ i ∈ entries, R (a i) (b i)) →
      R (.object ⟨entries.map fun i => (key i, ⟨a i, isOptional i⟩), keys⟩)
        (.object ⟨entries.map fun i => (key i, ⟨b i, isOptional i⟩), keys'⟩)
  same : ∀ ds, D ds ds
  append : ∀ ds ds' es es', D ds ds' → D es es' → D (ds ++ es) (ds' ++ es')

/-- The results of two runs are related. -/
structure Compiled.Alike (R : Shape → Shape → Prop) (D : List Diagnostic → List Diagnostic → Prop)
    (x y : Compiled Shape) : Prop where
  value : R x.value y.value
  diagnostics : D x.diagnostics y.diagnostics

theorem Compiled.Alike.eq {x y : Compiled Shape} (h : x.Alike Eq Eq y) : x = y := by
  obtain ⟨value, diagnostics⟩ := x
  obtain ⟨hvalue, hdiagnostics⟩ := h
  cases hvalue
  cases hdiagnostics
  rfl

namespace Compile

theorem isAtom_string (location : List String) (c : Constraints) :
    (string location c).value.IsAtom := by
  rw [value_string]
  split <;> trivial

theorem isAtom_plain (location : List String) (c : Constraints) (kind : TypeTag) :
    (plain location c kind).value.IsAtom := by
  cases kind with
  | string => exact isAtom_string location c
  | _ => trivial

variable {options options' : CompileOptions}
  {follow follow' : List String → String → Compiled Shape} {R : Shape → Shape → Prop}
  {D : List Diagnostic → List Diagnostic → Prop}

section
variable (hcompare : Comparison options.unknownKeys options'.unknownKeys R D)
include hcompare

private theorem alike_atom {x : Compiled Shape} (hx : x.value.IsAtom) : x.Alike R D x :=
  ⟨hcompare.atom _ hx, hcompare.same _⟩

private theorem alike_wrapped (c : Constraints) {wrap : Shape → Shape}
    (hwrap : ∀ a b, R a b → R (wrap a) (wrap b)) {x y : Compiled Shape} (h : x.Alike R D y) :
    (do let a ← x; return nullable c (wrap a) : Compiled Shape).Alike R D
      (do let b ← y; return nullable c (wrap b)) := by
  constructor
  · simp only [Compiled.value_bind, Compiled.value_pure, nullable]
    split
    · exact hcompare.orNull _ _ (hwrap _ _ h.value)
    · exact hwrap _ _ h.value
  · simpa using h.diagnostics

private theorem alike_fields (c : Constraints) {properties : List (String × Field)}
    (location required : List String)
    (h : ∀ p ∈ properties, (field options follow (location ++ [p.1]) p.2).Alike R D
      (field options' follow' (location ++ [p.1]) p.2)) :
    (do
      let fields ← fields options follow location required properties
      return nullable c (.object ⟨fields, options.unknownKeys⟩) : Compiled Shape).Alike R D (do
      let fields ← fields options' follow' location required properties
      return nullable c (.object ⟨fields, options'.unknownKeys⟩)) := by
  constructor
  · have hobject := hcompare.object properties Prod.fst (fun p => !required.contains p.1) _ _
      fun p hp => (h p hp).value
    simp only [Compiled.value_bind, Compiled.value_pure, value_fields, nullable]
    split
    · exact hcompare.orNull _ _ hobject
    · exact hobject
  · simp only [Compiled.diagnostics_bind, Compiled.diagnostics_pure, List.append_nil,
      diagnostics_fields]
    induction properties with
    | nil => exact hcompare.same []
    | cons p rest ih =>
      rw [List.flatMap_cons, List.flatMap_cons]
      exact hcompare.append _ _ _ _ (h p List.mem_cons_self).diagnostics
        (ih fun q hq => h q (List.mem_cons_of_mem _ hq))

private theorem alike_nesting : NestingCases
    (fun m => ∀ site, (∀ o ∈ Occurrence.inModel site m, ∀ location,
        (follow location o.pointer).Alike R D (follow' location o.pointer)) →
      ∀ location, (model options follow location m).Alike R D (model options' follow' location m))
    (fun f => ∀ site, (∀ o ∈ Occurrence.inField site f, ∀ location,
        (follow location o.pointer).Alike R D (follow' location o.pointer)) →
      ∀ location, (field options follow location f).Alike R D (field options' follow' location f))
    (fun i => ∀ site, (∀ o ∈ Occurrence.inItems site i, ∀ location,
        (follow location o.pointer).Alike R D (follow' location o.pointer)) →
      ∀ location,
        (items options follow location i).Alike R D (items options' follow' location i)) := by
  constructor
  · intro m hfields hitems site hfollow location
    by_cases hobject : m.kind = .object
    · rw [model_object hobject, model_object hobject]
      rw [Occurrence.inModel_object hobject] at hfollow
      refine alike_fields hcompare m.constraints location m.required fun p hp => ?_
      exact hfields p.1 p.2 hp _ (fun o ho => hfollow o (List.mem_flatMap.mpr ⟨p, hp, ho⟩)) _
    by_cases harray : m.kind = .array
    · rw [model_array harray, model_array harray]
      rw [Occurrence.inModel_array harray] at hfollow
      exact alike_wrapped hcompare _ hcompare.array (hitems _ hfollow location)
    · rw [model_plain hobject harray, model_plain hobject harray]
      exact alike_wrapped hcompare _ (fun _ _ h => h) (alike_atom hcompare (isAtom_plain _ _ _))
  · intro f hitems site hfollow location
    by_cases hobject : f.CountsAsObject
    · rw [field_object hobject, field_object hobject]
      rw [Occurrence.inField_object hobject] at hfollow
      refine alike_wrapped hcompare _ (fun _ _ h => h) ?_
      cases hp : f.pointer with
      | some pointer =>
        rw [hp] at hfollow
        rw [objectField_pointer, objectField_pointer]
        exact hfollow ⟨site, pointer⟩ List.mem_cons_self location
      | none =>
        rw [hp] at hfollow
        have h := hitems _ hfollow location
        cases hi : f.items with
        | none => exact alike_atom hcompare trivial
        | some inner =>
          rw [hi] at h
          rw [objectField_items, objectField_items]
          exact h
    by_cases harray : f.kind = .array
    · rw [field_array harray, field_array harray]
      rw [Occurrence.inField_array harray] at hfollow
      exact alike_wrapped hcompare _ hcompare.array (hitems _ hfollow location)
    · rw [field_plain hobject harray, field_plain hobject harray]
      exact alike_wrapped hcompare _ (fun _ _ h => h) (alike_atom hcompare (isAtom_plain _ _ _))
  · intro site _ location
    exact ⟨hcompare.array _ _ (hcompare.atom _ trivial), hcompare.same []⟩
  · intro pointer site hfollow location
    exact hfollow ⟨site, pointer⟩ List.mem_cons_self location
  · intro m hm site hfollow location
    exact hm site hfollow location

theorem alike_model (m : Model) (site : Site)
    (hfollow : ∀ o ∈ Occurrence.inModel site m, ∀ location,
      (follow location o.pointer).Alike R D (follow' location o.pointer))
    (location : List String) :
    (model options follow location m).Alike R D (model options' follow' location m) :=
  (alike_nesting hcompare).all_model m site hfollow location

end

variable {s : Schema}

/-- Runs are alike at the end of every path if they are alike at every pointer there, provided
that they are alike further on. -/
theorem alike_at_path (hcompare : Comparison options.unknownKeys options'.unknownKeys R D)
    (hpointer : ∀ path, s.IsPath path → ∀ location pointer,
      (∀ next, Pointer.modelName pointer ∉ path →
        s.model? (Pointer.modelName pointer) = some next →
        (model options (following options s (path ++ [Pointer.modelName pointer])) location
          next).Alike R D
        (model options' (following options' s (path ++ [Pointer.modelName pointer])) location
          next)) →
      (following options s path location pointer).Alike R D
        (following options' s path location pointer))
    {path : List String} (hpath : s.IsPath path) (location : List String) (m : Model) :
    (model options (following options s path) location m).Alike R D
      (model options' (following options' s path) location m) := by
  induction path, hpath using Schema.IsPath.induction_on generalizing location m with
  | step path hpath ih =>
    refine alike_model hcompare m [] (fun o _ location => ?_) location
    exact hpointer path hpath location o.pointer fun next hnew hnext => ih _ next hnew hnext _ next

theorem comparison_eq (keys : UnknownKeys) : Comparison keys keys Eq Eq where
  atom _ _ := rfl
  array _ _ h := congrArg Shape.array h
  orNull _ _ h := congrArg Shape.orNull h
  object entries key isOptional a b h := by
    have hfields : (entries.map fun i => (key i, (⟨a i, isOptional i⟩ : ShapeField))) =
        entries.map fun i => (key i, ⟨b i, isOptional i⟩) :=
      List.map_congr_left fun i hi => by rw [h i hi]
    rw [hfields]
  same _ := rfl
  append _ _ _ _ h h' := congrArg₂ _ h h'

theorem comparison_within (keys : UnknownKeys) :
    Comparison keys keys Shape.Within (fun _ _ => True) where
  atom _ _ _ h := h
  array a b h j := by
    rw [Shape.accepts_array, Shape.accepts_array]
    rintro ⟨elements, rfl, helements⟩
    exact ⟨elements, rfl, fun e he => h e (helements e he)⟩
  orNull a b h j := by
    rw [Shape.accepts_orNull, Shape.accepts_orNull]
    exact Or.imp_right (h j)
  object entries key isOptional a b h j := by
    rw [Shape.accepts_object, Shape.accepts_object]
    rintro ⟨members, rfl, hdeclared, hclosed⟩
    refine ⟨members, rfl, fun k field hfield => ?_, fun hreject k w hw => ?_⟩
    · obtain ⟨i, hi, heq⟩ := List.mem_map.mp hfield
      cases heq
      have hbefore := (Shape.keyAccepted_iff _ _ _).mp
        (hdeclared _ _ (List.mem_map.mpr ⟨i, hi, rfl⟩))
      exact (Shape.keyAccepted_iff _ _ _).mpr
        ⟨hbefore.1, fun w hw => h i hi w (hbefore.2 w hw)⟩
    · obtain ⟨field, hfield⟩ := KeyMap.contains_iff.mp (hclosed hreject k w hw)
      obtain ⟨i, hi, heq⟩ := List.mem_map.mp hfield
      cases heq
      exact KeyMap.contains_iff.mpr ⟨_, List.mem_map.mpr ⟨i, hi, rfl⟩⟩
  same _ := trivial
  append _ _ _ _ _ _ := trivial

end Compile
end RecordShape
