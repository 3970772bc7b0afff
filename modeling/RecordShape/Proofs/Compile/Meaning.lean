import RecordShape.Proofs.Compile.Equations
import RecordShape.Proofs.Schema.Conformance
import RecordShape.Proofs.Shape.Acceptance

/-!
# One model, compiled

The shape of a model accepts the values that the model describes, provided that what its
references are followed to accepts what they stand for. Nothing here depends on how references
are followed.
-/

namespace RecordShape

namespace Compile

theorem value_pattern (location : List String) (source : Option String) (p : Pattern) :
    (pattern location source).value = some p ↔
      ∃ text, source = some text ∧ Pattern.ofSource text = .ok p := by
  cases source with
  | none => simp [pattern]
  | some text => cases h : Pattern.ofSource text <;> simp [pattern, h]

theorem accepts_string (location : List String) (c : Constraints) (j : Json) :
    (string location c).value.accepts j = true ↔ c.AllowsString j := by
  cases h : c.stringValues with
  | nil =>
    rw [Constraints.allowsString_of_unlisted (Constraints.stringValues_eq_nil_iff.mp h),
      value_string, h]
    simp only [Shape.accepts_string, value_pattern, Option.bind_eq_some_iff,
      StringFormat.ofName?_eq_some_iff]
    refine exists_congr fun text => and_congr_right fun _ => ⟨?_, ?_⟩
    · intro hrules
      obtain ⟨hformat, hlow, hhigh, hpattern⟩ := hrules
      exact ⟨fun name format hn hf => hformat format ⟨name, hn, hf⟩, hlow, hhigh,
        fun source p hsource hp => hpattern p ⟨source, hsource, hp⟩⟩
    · intro hrules
      refine ⟨?_, hrules.minLength, hrules.maxLength, ?_⟩
      · rintro format ⟨name, hn, hf⟩
        exact hrules.format name format hn hf
      · rintro p ⟨source, hsource, hp⟩
        exact hrules.pattern source p hsource hp
  | cons first rest =>
    have hlisted : ∃ listed, c.Lists listed :=
      ⟨first, Constraints.mem_stringValues.mp (by rw [h]; exact List.mem_cons_self)⟩
    rw [Constraints.allowsString_of_listed hlisted]
    simp only [← Constraints.mem_stringValues, value_string, h]
    cases rest with
    | nil => simp
    | cons second others => simp

theorem accepts_number (integer : Bool) (c : Constraints) (j : Json) :
    (number integer c).accepts j = true ↔ c.AllowsNumber integer j := by
  simp only [number, Shape.accepts_number, Constraints.AllowsNumber, Double.not_lt,
    Double.isWhole_iff]

theorem accepts_nullable (c : Constraints) (shape : Shape) (j : Json) :
    (nullable c shape).accepts j = true ↔
      (c.nullable = true ∧ j = .null) ∨ shape.accepts j = true := by
  unfold nullable
  cases c.nullable <;> simp

section
variable {s : Schema} {options : CompileOptions} {follow : List String → String → Compiled Shape}

/-- A compiled object accepts the objects with the required keys, without forbidden ones, and with
members that the compiled fields accept. -/
theorem object_accepts_iff (m : Model) (location : List String) (j : Json) :
    (Shape.object ⟨(fields options follow location m.required m.properties).value,
        options.unknownKeys⟩).accepts j = true ↔
      ∃ members, j = .obj members ∧
        (∀ name f, (name, f) ∈ m.properties → name ∈ m.required →
          ∃ w, KeyMap.find? name members = some w) ∧
        (∀ name f, (name, f) ∈ m.properties → ∀ w, KeyMap.find? name members = some w →
          (field options follow (location ++ [name]) f).value.accepts w = true) ∧
        (options.unknownKeys = .reject → ∀ key w, (key, w) ∈ members →
          ∃ f, (key, f) ∈ m.properties) := by
  have hkeys (key : String) : KeyMap.contains
      (fields options follow location m.required m.properties).value key = true ↔
        ∃ f, (key, f) ∈ m.properties := by
    rw [KeyMap.contains_iff, value_fields]
    simp only [List.mem_map, Prod.mk.injEq, Prod.exists]
    constructor
    · intro h
      obtain ⟨_, name, f, hmem, rfl, -⟩ := h
      exact ⟨f, hmem⟩
    · intro h
      obtain ⟨f, hmem⟩ := h
      exact ⟨_, key, f, hmem, rfl, rfl⟩
  have hdeclared (members : List (String × Json)) : (∀ key field,
      (key, field) ∈ (fields options follow location m.required m.properties).value →
        Shape.KeyAccepted members key field) ↔
      (∀ name f, (name, f) ∈ m.properties → name ∈ m.required →
        ∃ w, KeyMap.find? name members = some w) ∧
      (∀ name f, (name, f) ∈ m.properties → ∀ w, KeyMap.find? name members = some w →
        (field options follow (location ++ [name]) f).value.accepts w = true) := by
    simp only [value_fields, List.mem_map, Prod.exists, Shape.keyAccepted_iff]
    constructor
    · intro h
      have hentry (name : String) (f : Field) (hmem : (name, f) ∈ m.properties) :=
        h _ _ ⟨name, f, hmem, rfl⟩
      refine ⟨fun name f hmem hrequired => (hentry name f hmem).1 ?_,
        fun name f hmem => (hentry name f hmem).2⟩
      simpa using hrequired
    · rintro ⟨hpresent, haccepted⟩ key field ⟨name, f, hmem, heq⟩
      cases heq
      refine ⟨fun hrequired => hpresent key f hmem ?_, haccepted key f hmem⟩
      simpa using hrequired
  simp only [Shape.accepts_object, hkeys, hdeclared, and_assoc]

variable (s options follow) in
/-- What the pointer is followed to accepts what the pointer stands for. -/
def Faithful (pointer : String) : Prop :=
  ∀ location j, (follow location pointer).value.accepts j = true ↔
    s.PointerConforms options.unknownKeys pointer j

private theorem accepts_objectField {f : Field}
    (hpointer : ∀ pointer, f.pointer = some pointer → Faithful s options follow pointer)
    (hitems : f.pointer = none → ∀ location j,
      (items options follow location f.items).value.accepts j = true ↔
        s.ItemsConform options.unknownKeys f.items j) (location : List String) (j : Json) :
    (objectField options follow location f.pointer f.items).value.accepts j = true ↔
      s.ObjectFieldConforms options.unknownKeys f j := by
  rw [Schema.ObjectFieldConforms]
  cases hp : f.pointer with
  | some pointer =>
    rw [objectField_pointer]
    exact hpointer pointer hp location j
  | none =>
    have h := hitems hp location j
    cases hi : f.items with
    | none => exact Shape.accepts_anyObject j
    | some inner =>
      rw [hi] at h
      rw [objectField_items]
      exact h

private theorem accepts_nesting : NestingCases
    (fun m => ∀ site, (∀ o ∈ Occurrence.inModel site m, Faithful s options follow o.pointer) →
      ∀ location j, (model options follow location m).value.accepts j = true ↔
        s.Conforms options.unknownKeys m j)
    (fun f => ∀ site, (∀ o ∈ Occurrence.inField site f, Faithful s options follow o.pointer) →
      ∀ location j, (field options follow location f).value.accepts j = true ↔
        s.FieldConforms options.unknownKeys f j)
    (fun i => ∀ site, (∀ o ∈ Occurrence.inItems site i, Faithful s options follow o.pointer) →
      ∀ location j, (items options follow location i).value.accepts j = true ↔
        s.ItemsConform options.unknownKeys i j) := by
  constructor
  · intro m hfields hitems site hfollow location j
    cases hkind : m.kind with
    | object =>
      rw [model_object hkind, Compiled.value_bind, Compiled.value_pure, accepts_nullable,
          Schema.conforms_object hkind]
      refine or_congr Iff.rfl ((object_accepts_iff m location j).trans ?_)
      have hfield (name : String) (f : Field) (hmem : (name, f) ∈ m.properties) :=
        hfields name f hmem (site ++ [.field name]) (fun o ho => hfollow o (by
          rw [Occurrence.inModel_object hkind]
          exact List.mem_flatMap.mpr ⟨(name, f), hmem, ho⟩)) (location ++ [name])
      refine exists_congr fun members => and_congr Iff.rfl (and_congr Iff.rfl
        (and_congr ?_ Iff.rfl))
      exact forall_congr' fun name => forall_congr' fun f => forall_congr' fun hmem =>
        forall_congr' fun w => forall_congr' fun _ => hfield name f hmem w
    | array =>
      rw [model_array hkind, Compiled.value_bind, Compiled.value_pure, accepts_nullable,
          Schema.conforms_array hkind]
      rw [Occurrence.inModel_array hkind] at hfollow
      simp only [Shape.accepts_array, hitems (site ++ [.items]) hfollow]
    | _ =>
      rw [Schema.Conforms.eq_def, hkind]
      obtain ⟨kind, properties, required, elements, c, description⟩ := m
      cases hkind
      simp [model, accepts_nullable, accepts_string, accepts_number, unknownKind, Json.IsObject]
  · intro f hitems site hfollow location j
    have hcounts (hobject : f.CountsAsObject) :
        (field options follow location f).value.accepts j = true ↔
          s.FieldConforms options.unknownKeys f j := by
      rw [Occurrence.inField_object hobject] at hfollow
      rw [field_object hobject, Compiled.value_bind, Compiled.value_pure, accepts_nullable,
          Schema.fieldConforms_object hobject]
      refine or_congr Iff.rfl (accepts_objectField (fun pointer hp => ?_) (fun hp => ?_) location j)
      · rw [hp] at hfollow
        exact hfollow ⟨site, pointer⟩ List.mem_cons_self
      · rw [hp] at hfollow
        exact hitems (site ++ [.items]) hfollow
    cases hkind : f.kind with
    | object => exact hcounts (.inl hkind)
    | array =>
      rw [field_array hkind, Compiled.value_bind, Compiled.value_pure, accepts_nullable,
          Schema.fieldConforms_array hkind]
      rw [Occurrence.inField_array hkind] at hfollow
      simp only [Shape.accepts_array, hitems (site ++ [.items]) hfollow]
    | other tag =>
      by_cases hobject : f.CountsAsObject
      · exact hcounts hobject
      · rw [field_unknown hkind hobject, Compiled.value_bind, Compiled.value_pure, accepts_nullable,
          Schema.fieldConforms_unknown hkind hobject, unknownKind,
          Compiled.value_degraded, Shape.accepts_anyObject]
        rfl
    | _ =>
      rw [Schema.FieldConforms.eq_def, hkind]
      obtain ⟨kind, c, elements, pointer, description⟩ := f
      cases hkind
      simp [field, accepts_nullable, accepts_string, accepts_number]
  · intro site _ location j
    simp [items, Schema.ItemsConform, Json.IsObject]
  · intro pointer site hfollow location j
    rw [Schema.ItemsConform]
    exact hfollow ⟨site, pointer⟩ List.mem_cons_self location j
  · intro m hm site hfollow location j
    rw [Schema.ItemsConform]
    exact hm site hfollow location j

/-- A compiled model accepts what the model describes, if this holds of its references. -/
theorem model_accepts_iff (m : Model) (site : Site)
    (hfollow : ∀ o ∈ Occurrence.inModel site m, Faithful s options follow o.pointer)
    (location : List String) (j : Json) :
    (model options follow location m).value.accepts j = true ↔
      s.Conforms options.unknownKeys m j :=
  accepts_nesting.all_model m site hfollow location j

theorem field_accepts_iff (f : Field) (site : Site)
    (hfollow : ∀ o ∈ Occurrence.inField site f, Faithful s options follow o.pointer)
    (location : List String) (j : Json) :
    (field options follow location f).value.accepts j = true ↔
      s.FieldConforms options.unknownKeys f j :=
  accepts_nesting.all_field f site hfollow location j

end
end Compile
end RecordShape
