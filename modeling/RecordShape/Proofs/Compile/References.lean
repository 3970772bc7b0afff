import Mathlib.Data.List.Nodup
import RecordShape.Proofs.Compile.Equations

/-!
# References while compiling

Compiling one model follows its references one after another, in the order in which they occur,
and whatever else it records is not about references.
-/

namespace RecordShape

/-- The diagnostic is about a reference that was not expanded. -/
def Diagnostic.isReference (d : Diagnostic) : Bool :=
  match d.code with
  | .danglingReference | .cyclicReference | .depthExceeded | .missingRegistry => true
  | .unknownType | .invalidPattern | .emptyEnum => false

namespace Compiled
variable {α β : Type}

/-- The diagnostics about references, in order. -/
def references (x : Compiled α) : List Diagnostic := x.diagnostics.filter Diagnostic.isReference

@[simp] theorem references_pure (a : α) : (pure a : Compiled α).references = [] := rfl

@[simp] theorem references_bind (x : Compiled α) (f : α → Compiled β) :
    (x >>= f).references = x.references ++ (f x.value).references := by
  simp [references]

theorem references_degraded {d : Diagnostic} (h : d.isReference = true) :
    (degraded d).references = [d] := by
  simp [references, h]

end Compiled

namespace Compile

theorem references_string (location : List String) (c : Constraints) :
    (string location c).references = [] := by
  refine List.filter_eq_nil_iff.mpr fun d hd => ?_
  rcases code_of_mem_string hd with hcode | hcode <;> simp [Diagnostic.isReference, hcode]

theorem references_unknownKind (location : List String) (tag : String) :
    (unknownKind location tag).references = [] := rfl

variable {options : CompileOptions} {follow : List String → String → Compiled Shape}

private theorem references_fields (location required : List String)
    (properties : List (String × Field)) :
    (fields options follow location required properties).references =
      properties.flatMap fun p => (field options follow (location ++ [p.1]) p.2).references := by
  simp only [Compiled.references, diagnostics_fields, List.filter_flatMap]

private theorem references_objectField {recorded : String → List Diagnostic}
    (hfollow : ∀ location pointer, (follow location pointer).references = recorded pointer)
    {f : Field} (hobject : f.CountsAsObject)
    (hitems : ∀ site location, (items options follow location f.items).references =
      (Occurrence.inItems site f.items).flatMap fun o => recorded o.pointer)
    (site : Site) (location : List String) :
    (objectField options follow location f.pointer f.items).references =
      (Occurrence.inField site f).flatMap fun o => recorded o.pointer := by
  rw [Occurrence.inField_object hobject]
  cases f.pointer with
  | some pointer =>
    rw [objectField_pointer, hfollow location pointer]
    simp
  | none =>
    have h := hitems (site ++ [.items]) location
    cases hi : f.items with
    | none => rfl
    | some inner =>
      rw [hi] at h
      rw [objectField_items]
      exact h

/-- The references recorded for a model are those recorded at its occurrences, in order. -/
theorem references_model {recorded : String → List Diagnostic}
    (hfollow : ∀ location pointer, (follow location pointer).references = recorded pointer)
    (m : Model) (site : Site) (location : List String) :
    (model options follow location m).references =
      (Occurrence.inModel site m).flatMap fun o => recorded o.pointer := by
  suffices h : NestingCases
      (fun m => ∀ site location, (model options follow location m).references =
        (Occurrence.inModel site m).flatMap fun o => recorded o.pointer)
      (fun f => ∀ site location, (field options follow location f).references =
        (Occurrence.inField site f).flatMap fun o => recorded o.pointer)
      (fun i => ∀ site location, (items options follow location i).references =
        (Occurrence.inItems site i).flatMap fun o => recorded o.pointer) from
    h.all_model m site location
  constructor
  · intro m hfields hitems site location
    cases hkind : m.kind with
    | object =>
      rw [model_object hkind, Compiled.references_bind, Compiled.references_pure, List.append_nil,
        references_fields, Occurrence.inModel_object hkind, List.flatMap_assoc]
      exact List.flatMap_congr fun p hp => hfields p.1 p.2 hp _ _
    | array =>
      rw [model_array hkind, Compiled.references_bind, Compiled.references_pure, List.append_nil,
        Occurrence.inModel_array hkind, hitems]
    | _ =>
      obtain ⟨kind, properties, required, elements, c, description⟩ := m
      cases hkind
      simp [model, Occurrence.inModel, references_string, references_unknownKind]
  · intro f hitems site location
    have hcounts (hobject : f.CountsAsObject) : (field options follow location f).references =
        (Occurrence.inField site f).flatMap fun o => recorded o.pointer := by
      rw [field_object hobject, Compiled.references_bind, Compiled.references_pure,
        List.append_nil, references_objectField hfollow hobject hitems]
    cases hkind : f.kind with
    | object => exact hcounts (.inl hkind)
    | array =>
      rw [field_array hkind, Compiled.references_bind, Compiled.references_pure, List.append_nil,
        Occurrence.inField_array hkind, hitems]
    | other tag =>
      by_cases hobject : f.CountsAsObject
      · exact hcounts hobject
      · rw [field_unknown hkind hobject, Compiled.references_bind, references_unknownKind,
          Occurrence.inField_other hobject (by simp [hkind])]
        rfl
    | _ =>
      obtain ⟨kind, c, elements, pointer, description⟩ := f
      cases hkind
      cases pointer <;>
        simp [field, Occurrence.inField, references_string, TypeTag.isUnspecified]
  · intro site location
    rfl
  · intro pointer site location
    simp [items, Occurrence.inItems, hfollow]
  · intro m hm site location
    exact hm site location

end Compile
end RecordShape
