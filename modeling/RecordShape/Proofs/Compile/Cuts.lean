import RecordShape.Proofs.Compile.Meaning
import RecordShape.Proofs.Compile.Resolution

/-!
# Values at the cuts

A reference that is cut off stands for any object, also where the model it names describes
something else. So a value that a model describes is turned down where it comes to a cut with
anything but an object, and nowhere else. This cannot happen in a schema whose models are all
objects.
-/

namespace RecordShape

mutual
/-- In the model, the value leads to the pointer with a part of it. -/
inductive Meets : Model → Json → String → Json → Prop where
  | member {m : Model} {members : List (String × Json)} {name : String} {f : Field}
      {w : Json} {pointer : String} {part : Json} (hkind : m.kind = .object)
      (hf : (name, f) ∈ m.properties) (hw : KeyMap.find? name members = some w)
      (h : FieldMeets f w pointer part) : Meets m (.obj members) pointer part
  | element {m : Model} {elements : List Json} {e : Json} {pointer : String} {part : Json}
      (hkind : m.kind = .array) (he : e ∈ elements) (h : ItemsMeet m.items e pointer part) :
      Meets m (.arr elements) pointer part

inductive FieldMeets : Field → Json → String → Json → Prop where
  | pointer {f : Field} {j : Json} {pointer : String} (hobject : f.CountsAsObject)
      (hnull : ¬(f.constraints.nullable = true ∧ j = .null)) (h : f.pointer = some pointer) :
      FieldMeets f j pointer j
  | nested {f : Field} {j : Json} {pointer : String} {part : Json} (hobject : f.CountsAsObject)
      (hnull : ¬(f.constraints.nullable = true ∧ j = .null)) (hpointer : f.pointer = none)
      (h : ItemsMeet f.items j pointer part) : FieldMeets f j pointer part
  | element {f : Field} {elements : List Json} {e : Json} {pointer : String} {part : Json}
      (hkind : f.kind = .array) (he : e ∈ elements) (h : ItemsMeet f.items e pointer part) :
      FieldMeets f (.arr elements) pointer part

inductive ItemsMeet : Option Items → Json → String → Json → Prop where
  | reference {pointer : String} {j : Json} : ItemsMeet (some (.reference pointer)) j pointer j
  | inline {m : Model} {j : Json} {pointer : String} {part : Json} (h : Meets m j pointer part) :
      ItemsMeet (some (.inline m)) j pointer part
end

section
variable {j part : Json} {pointer : String}

theorem meets_object {m : Model} (hkind : m.kind = .object) :
    Meets m j pointer part ↔ ∃ members, j = .obj members ∧ ∃ name f w, (name, f) ∈ m.properties ∧
      KeyMap.find? name members = some w ∧ FieldMeets f w pointer part := by
  constructor
  · intro h
    cases h with
    | member _ hf hw h => exact ⟨_, rfl, _, _, _, hf, hw, h⟩
    | element harray => rw [hkind] at harray; cases harray
  · intro h
    obtain ⟨members, rfl, name, f, w, hf, hw, h⟩ := h
    exact .member hkind hf hw h

theorem meets_array {m : Model} (hkind : m.kind = .array) :
    Meets m j pointer part ↔
      ∃ elements, j = .arr elements ∧ ∃ e ∈ elements, ItemsMeet m.items e pointer part := by
  constructor
  · intro h
    cases h with
    | member hobject => rw [hkind] at hobject; cases hobject
    | element _ he h => exact ⟨_, rfl, _, he, h⟩
  · intro h
    obtain ⟨elements, rfl, e, he, h⟩ := h
    exact .element hkind he h

theorem fieldMeets_array {f : Field} (hkind : f.kind = .array) :
    FieldMeets f j pointer part ↔
      ∃ elements, j = .arr elements ∧ ∃ e ∈ elements, ItemsMeet f.items e pointer part := by
  have hnot : ¬f.CountsAsObject := by simp [Field.CountsAsObject, hkind]
  constructor
  · intro h
    cases h with
    | pointer hobject => exact absurd hobject hnot
    | nested hobject => exact absurd hobject hnot
    | element _ he h => exact ⟨_, rfl, _, he, h⟩
  · intro h
    obtain ⟨elements, rfl, e, he, h⟩ := h
    exact .element hkind he h

theorem fieldMeets_object {f : Field} (hobject : f.CountsAsObject) :
    FieldMeets f j pointer part ↔ ¬(f.constraints.nullable = true ∧ j = .null) ∧
      ((f.pointer = some pointer ∧ j = part) ∨
        (f.pointer = none ∧ ItemsMeet f.items j pointer part)) := by
  constructor
  · intro h
    cases h with
    | pointer _ hnull hp => exact ⟨hnull, .inl ⟨hp, rfl⟩⟩
    | nested _ hnull hp h => exact ⟨hnull, .inr ⟨hp, h⟩⟩
    | element hkind => simp [Field.CountsAsObject, hkind] at hobject
  · rintro ⟨hnull, ⟨hp, rfl⟩ | ⟨hp, h⟩⟩
    · exact .pointer hobject hnull hp
    · exact .nested hobject hnull hp h

end

/-- From the end of a path, the value comes to a reference that is cut off there or further on,
and what it has there is no object. -/
inductive Blocked (s : Schema) (maxDepth : Nat) : List String → Model → Json → Prop where
  | cut {path : List String} {m : Model} {j : Json} {pointer : String} {part : Json}
      (h : Meets m j pointer part)
      (hcut : Pointer.modelName pointer ∈ path ∨ maxDepth ≤ path.length)
      (hpart : ¬part.IsObject) : Blocked s maxDepth path m j
  | onward {path : List String} {m next : Model} {j : Json} {pointer : String} {part : Json}
      (h : Meets m j pointer part) (hnew : Pointer.modelName pointer ∉ path)
      (hlen : path.length < maxDepth) (hnext : s.model? (Pointer.modelName pointer) = some next)
      (hrest : Blocked s maxDepth (path ++ [Pointer.modelName pointer]) next part) :
      Blocked s maxDepth path m j

/-- Nothing blocks the part that a value has at a pointer: where the reference is cut off it is an
object, and otherwise it is not blocked further on. -/
def FreeAt (s : Schema) (maxDepth : Nat) (path : List String) (pointer : String) (part : Json) :
    Prop :=
  (Pointer.modelName pointer ∈ path ∨ maxDepth ≤ path.length → part.IsObject) ∧
    ∀ next, Pointer.modelName pointer ∉ path → path.length < maxDepth →
      s.model? (Pointer.modelName pointer) = some next →
        ¬Blocked s maxDepth (path ++ [Pointer.modelName pointer]) next part

theorem not_blocked_iff {s : Schema} {maxDepth : Nat} {path : List String} {m : Model} {j : Json} :
    ¬Blocked s maxDepth path m j ↔
      ∀ pointer part, Meets m j pointer part → FreeAt s maxDepth path pointer part := by
  constructor
  · intro hfree pointer part hmeets
    refine ⟨fun hcut => ?_, fun next hnew hlen hnext hrest => ?_⟩
    · by_contra hpart
      exact hfree (.cut hmeets hcut hpart)
    · exact hfree (.onward hmeets hnew hlen hnext hrest)
  · intro hparts hblocked
    cases hblocked with
    | cut hmeets hcut hpart => exact hpart ((hparts _ _ hmeets).1 hcut)
    | onward hmeets hnew hlen hnext hrest =>
      exact (hparts _ _ hmeets).2 _ hnew hlen hnext hrest

/-- Only objects are described: the kind says so or is not known, and `null` is not added. -/
def Model.IsRecord (m : Model) : Prop :=
  m.constraints.nullable = false ∧ (m.kind = .object ∨ ∃ tag, m.kind = .other tag)

namespace Schema
variable {s : Schema} {unknownKeys : UnknownKeys}

theorem isObject_of_conforms {m : Model} (hm : m.IsRecord) {j : Json}
    (h : s.Conforms unknownKeys m j) : j.IsObject := by
  obtain ⟨hnull, hkind | ⟨tag, hkind⟩⟩ := hm
  · rcases (conforms_object hkind j).mp h with ⟨hyes, -⟩ | ⟨members, rfl, -⟩
    · rw [hnull] at hyes
      cases hyes
    · exact ⟨members, rfl⟩
  · rw [Conforms.eq_def, hkind, hnull] at h
    simpa using h

theorem conforms_of_meets {m : Model} {j part : Json} {pointer : String}
    (h : s.Conforms unknownKeys m j) (hmeets : Meets m j pointer part) :
    s.PointerConforms unknownKeys pointer part := by
  suffices hcases : NestingCases
      (fun m => ∀ j part pointer, s.Conforms unknownKeys m j → Meets m j pointer part →
        s.PointerConforms unknownKeys pointer part)
      (fun f => ∀ j part pointer, s.FieldConforms unknownKeys f j → FieldMeets f j pointer part →
        s.PointerConforms unknownKeys pointer part)
      (fun i => ∀ j part pointer, s.ItemsConform unknownKeys i j → ItemsMeet i j pointer part →
        s.PointerConforms unknownKeys pointer part) from
    hcases.all_model m j part pointer h hmeets
  constructor
  · intro m hfields hitems j part pointer h hmeets
    cases hmeets with
    | member hkind hf hw hfield =>
      rcases (conforms_object hkind _).mp h with ⟨-, hnull⟩ | ⟨members, heq, -, hvalues, -⟩
      · cases hnull
      · cases heq
        exact hfields _ _ hf _ _ _ (hvalues _ _ hf _ hw) hfield
    | element hkind he hitem =>
      rcases (conforms_array hkind _).mp h with ⟨-, hnull⟩ | ⟨elements, heq, hvalues⟩
      · cases hnull
      · cases heq
        exact hitems _ _ _ (hvalues _ he) hitem
  · intro f hitems j part pointer h hmeets
    cases hmeets with
    | pointer hobject hnull hp =>
      have hfield := ((fieldConforms_object hobject _).mp h).resolve_left hnull
      rwa [ObjectFieldConforms, hp] at hfield
    | nested hobject hnull hp hitem =>
      have hfield := ((fieldConforms_object hobject _).mp h).resolve_left hnull
      rw [ObjectFieldConforms, hp] at hfield
      cases hi : f.items with
      | none =>
        rw [hi] at hitem
        cases hitem
      | some inner =>
        rw [hi] at hfield hitem hitems
        exact hitems _ _ _ hfield hitem
    | element hkind he hitem =>
      rcases (fieldConforms_array hkind _).mp h with ⟨-, hnull⟩ | ⟨elements, heq, hvalues⟩
      · cases hnull
      · cases heq
        exact hitems _ _ _ (hvalues _ he) hitem
  · intro j part pointer _ hmeets
    cases hmeets
  · intro target j part pointer h hmeets
    cases hmeets
    rwa [ItemsConform] at h
  · intro m hm j part pointer h hmeets
    cases hmeets with
    | inline hinner =>
      rw [ItemsConform] at h
      exact hm _ _ _ h hinner

end Schema

namespace Compile
variable {s : Schema} {options : CompileOptions}

section
variable {follow : List String → String → Compiled Shape} {A : String → Json → Prop}

private theorem accepts_elements_of_conforms {shape : Shape} {i : Option Items} {empty : Prop}
    {j : Json} (hempty : empty → j = .null)
    (hitems : ∀ e, s.ItemsConform options.unknownKeys i e →
      (shape.accepts e = true ↔ ∀ pointer part, ItemsMeet i e pointer part → A pointer part))
    (h : empty ∨ ∃ elements, j = .arr elements ∧
      ∀ e ∈ elements, s.ItemsConform options.unknownKeys i e) :
    (empty ∨ (Shape.array shape).accepts j = true) ↔ ∀ pointer part,
      (∃ elements, j = .arr elements ∧ ∃ e ∈ elements, ItemsMeet i e pointer part) →
        A pointer part := by
  rcases h with hyes | ⟨elements, rfl, hvalues⟩
  · refine iff_of_true (.inl hyes) ?_
    rintro pointer part ⟨elements, heq, -⟩
    rw [hempty hyes] at heq
    cases heq
  have hnot : ¬empty := fun hyes => by cases hempty hyes
  rw [or_iff_right hnot, Shape.accepts_array]
  constructor
  · rintro ⟨_, heq, haccepts⟩ pointer part ⟨_, heq', e, he, hitem⟩
    cases heq
    cases heq'
    exact (hitems e (hvalues e he)).mp (haccepts e he) pointer part hitem
  · intro hparts
    refine ⟨elements, rfl, fun e he => (hitems e (hvalues e he)).mpr fun pointer part hitem => ?_⟩
    exact hparts pointer part ⟨elements, rfl, e, he, hitem⟩

private theorem accepts_objectField_of_conforms
    (hfollow : ∀ location pointer part, s.PointerConforms options.unknownKeys pointer part →
      ((follow location pointer).value.accepts part = true ↔ A pointer part))
    {f : Field} (location : List String) {j : Json}
    (hitems : s.ItemsConform options.unknownKeys f.items j →
      ((items options follow location f.items).value.accepts j = true ↔
        ∀ pointer part, ItemsMeet f.items j pointer part → A pointer part))
    (h : s.ObjectFieldConforms options.unknownKeys f j) :
    (objectField options follow location f.pointer f.items).value.accepts j = true ↔
      ∀ pointer part, ((f.pointer = some pointer ∧ j = part) ∨
        (f.pointer = none ∧ ItemsMeet f.items j pointer part)) → A pointer part := by
  rw [Schema.ObjectFieldConforms] at h
  cases hp : f.pointer with
  | some target =>
    rw [hp] at h
    rw [objectField_pointer, hfollow location target j h]
    simp
  | none =>
    rw [hp] at h
    cases hi : f.items with
    | none =>
      rw [hi] at h
      refine iff_of_true ((Shape.accepts_anyObject j).mpr h) ?_
      rintro pointer part (⟨hsome, -⟩ | ⟨-, hitem⟩)
      · cases hsome
      · cases hitem
    | some inner =>
      rw [hi] at h hitems
      rw [objectField_items, hitems h]
      simp

private theorem accepts_members_of_conforms {m : Model} (hkind : m.kind = .object)
    (hfields : ∀ name f, (name, f) ∈ m.properties →
      ∀ location w, s.FieldConforms options.unknownKeys f w →
        ((field options follow location f).value.accepts w = true ↔
          ∀ pointer part, FieldMeets f w pointer part → A pointer part))
    (location : List String) {j : Json} (h : s.Conforms options.unknownKeys m j) :
    (model options follow location m).value.accepts j = true ↔
      ∀ pointer part, Meets m j pointer part → A pointer part := by
  rw [model_object hkind, Compiled.value_bind, Compiled.value_pure, accepts_nullable]
  simp only [meets_object hkind]
  rcases (Schema.conforms_object hkind j).mp h with
    hnull | ⟨members, rfl, hpresent, hvalues, hclosed⟩
  · refine iff_of_true (.inl hnull) ?_
    rintro pointer part ⟨members, heq, -⟩
    rw [hnull.2] at heq
    cases heq
  rw [or_iff_right (by simp), object_accepts_iff]
  constructor
  · rintro ⟨_, heq, -, haccepts, -⟩ pointer part ⟨_, heq', name, f, w, hf, hw, hfield⟩
    cases heq
    cases heq'
    exact (hfields name f hf _ w (hvalues name f hf w hw)).mp (haccepts name f hf w hw)
      pointer part hfield
  · intro hparts
    refine ⟨members, rfl, hpresent, fun name f hf w hw => ?_, hclosed⟩
    refine (hfields name f hf _ w (hvalues name f hf w hw)).mpr fun pointer part hfield => ?_
    exact hparts pointer part ⟨members, rfl, name, f, w, hf, hw, hfield⟩

private theorem field_accepts_of_conforms
    (hfollow : ∀ location pointer part, s.PointerConforms options.unknownKeys pointer part →
      ((follow location pointer).value.accepts part = true ↔ A pointer part))
    {f : Field} (hitems : ∀ location j, s.ItemsConform options.unknownKeys f.items j →
      ((items options follow location f.items).value.accepts j = true ↔
        ∀ pointer part, ItemsMeet f.items j pointer part → A pointer part))
    (location : List String) {j : Json} (h : s.FieldConforms options.unknownKeys f j) :
    (field options follow location f).value.accepts j = true ↔
      ∀ pointer part, FieldMeets f j pointer part → A pointer part := by
  by_cases hobject : f.CountsAsObject
  · rw [field_object hobject, Compiled.value_bind, Compiled.value_pure, accepts_nullable]
    simp only [fieldMeets_object hobject]
    by_cases hnull : f.constraints.nullable = true ∧ j = .null
    · exact iff_of_true (.inl hnull) fun pointer part hmeets => absurd hnull hmeets.1
    have hfield := ((Schema.fieldConforms_object hobject j).mp h).resolve_left hnull
    rw [or_iff_right hnull,
      accepts_objectField_of_conforms hfollow location (hitems location j) hfield]
    simp only [hnull, not_false_eq_true, true_and]
  by_cases harray : f.kind = .array
  · rw [field_array harray, Compiled.value_bind, Compiled.value_pure, accepts_nullable]
    simp only [fieldMeets_array harray]
    exact accepts_elements_of_conforms And.right (hitems location)
      ((Schema.fieldConforms_array harray j).mp h)
  -- Without references, the shape accepts what the field describes.
  have hnone := Occurrence.inField_other hobject harray []
  refine iff_of_true ((field_accepts_iff f [] (by simp [hnone]) location j).mpr h) ?_
  intro pointer part hmeets
  cases hmeets with
  | pointer hcounts => exact absurd hcounts hobject
  | nested hcounts => exact absurd hcounts hobject
  | element hkind => exact absurd hkind harray

/-- Of a described value, the shape of a model asks only that its parts at the pointers are
accepted. -/
theorem model_accepts_of_conforms
    (hfollow : ∀ location pointer part, s.PointerConforms options.unknownKeys pointer part →
      ((follow location pointer).value.accepts part = true ↔ A pointer part))
    (m : Model) (location : List String) {j : Json} (h : s.Conforms options.unknownKeys m j) :
    (model options follow location m).value.accepts j = true ↔
      ∀ pointer part, Meets m j pointer part → A pointer part := by
  suffices hcases : NestingCases
      (fun m => ∀ location j, s.Conforms options.unknownKeys m j →
        ((model options follow location m).value.accepts j = true ↔
          ∀ pointer part, Meets m j pointer part → A pointer part))
      (fun f => ∀ location j, s.FieldConforms options.unknownKeys f j →
        ((field options follow location f).value.accepts j = true ↔
          ∀ pointer part, FieldMeets f j pointer part → A pointer part))
      (fun i => ∀ location j, s.ItemsConform options.unknownKeys i j →
        ((items options follow location i).value.accepts j = true ↔
          ∀ pointer part, ItemsMeet i j pointer part → A pointer part)) from
    hcases.all_model m location j h
  constructor
  · intro m hfields hitems location j h
    by_cases hobject : m.kind = .object
    · exact accepts_members_of_conforms hobject hfields location h
    by_cases harray : m.kind = .array
    · rw [model_array harray, Compiled.value_bind, Compiled.value_pure, accepts_nullable]
      simp only [meets_array harray]
      exact accepts_elements_of_conforms And.right (hitems location)
        ((Schema.conforms_array harray j).mp h)
    have hnone := Occurrence.inModel_other hobject harray []
    refine iff_of_true ((model_accepts_iff m [] (by simp [hnone]) location j).mpr h) ?_
    intro pointer part hmeets
    cases hmeets with
    | member hkind => exact absurd hkind hobject
    | element hkind => exact absurd hkind harray
  · intro f hitems location j h
    exact field_accepts_of_conforms hfollow hitems location h
  · intro location j h
    rw [Schema.ItemsConform] at h
    refine iff_of_true (by simpa [items, Json.IsObject] using h) ?_
    intro pointer part hmeets
    cases hmeets
  · intro target location j h
    rw [Schema.ItemsConform] at h
    rw [items, hfollow location target j h]
    constructor
    · intro hpart pointer part hmeets
      cases hmeets
      exact hpart
    · intro hparts
      exact hparts target j .reference
  · intro m hm location j h
    rw [Schema.ItemsConform] at h
    rw [items, hm location j h]
    constructor
    · intro hparts pointer part hmeets
      cases hmeets with
      | inline hinner => exact hparts pointer part hinner
    · intro hparts pointer part hinner
      exact hparts pointer part (.inline hinner)

end

/-- At the end of a path, a described value is accepted unless it is blocked. -/
theorem accepts_at_path_iff {path : List String} (hpath : s.IsPath path) (m : Model)
    (location : List String) {j : Json} (h : s.Conforms options.unknownKeys m j) :
    (model options (following options s path) location m).value.accepts j = true ↔
      ¬Blocked s options.maxDepth path m j := by
  induction path, hpath using Schema.IsPath.induction_on generalizing m location j with
  | step path hpath ih =>
  have hfollow (location : List String) (pointer : String) (part : Json)
      (hpart : s.PointerConforms options.unknownKeys pointer part) :
      (following options s path location pointer).value.accepts part = true ↔
        FreeAt s options.maxDepth path pointer part := by
    rw [following_eq hpath]
    by_cases hmem : Pointer.modelName pointer ∈ path
    · rw [if_pos hmem, Compiled.value_degraded, Shape.accepts_anyObject]
      exact ⟨fun hobject => ⟨fun _ => hobject, fun _ hnew => absurd hmem hnew⟩,
        fun hfree => hfree.1 (.inl hmem)⟩
    by_cases hlen : options.maxDepth ≤ path.length
    · rw [if_neg hmem, if_pos hlen, Compiled.value_degraded, Shape.accepts_anyObject]
      exact ⟨fun hobject => ⟨fun _ => hobject, fun _ _ hlt => by omega⟩,
        fun hfree => hfree.1 (.inr hlen)⟩
    rw [if_neg hmem, if_neg hlen]
    rw [Schema.PointerConforms] at hpart
    cases hnext : s.model? (Pointer.modelName pointer) with
    | none =>
      rw [hnext] at hpart
      dsimp only
      rw [Compiled.value_degraded, Shape.accepts_anyObject]
      refine iff_of_true hpart ⟨fun _ => hpart, fun next _ _ hsome => ?_⟩
      rw [hnext] at hsome
      cases hsome
    | some next =>
      rw [hnext] at hpart
      refine (ih _ next hmem hnext next location hpart).trans ?_
      constructor
      · intro hfree
        refine ⟨fun hcut => ?_, fun next' _ _ hsome => ?_⟩
        · exact (hcut.elim hmem fun hle => hlen hle).elim
        · rw [hnext, Option.some.injEq] at hsome
          rwa [← hsome]
      · intro hfree
        exact hfree.2 next hmem (by omega) hnext
  rw [model_accepts_of_conforms hfollow m location h, not_blocked_iff]

theorem not_blocked {unknownKeys : UnknownKeys} {maxDepth : Nat}
    (hrecords : ∀ name target, s.model? name = some target → target.IsRecord)
    {path : List String} {m : Model} {j : Json} (h : s.Conforms unknownKeys m j) :
    ¬Blocked s maxDepth path m j := by
  intro hblocked
  induction hblocked with
  | @cut path m j pointer part hmeets _ hpart =>
    have hpointer := Schema.conforms_of_meets h hmeets
    rw [Schema.PointerConforms] at hpointer
    cases hnext : s.model? (Pointer.modelName pointer) with
    | none =>
      rw [hnext] at hpointer
      exact hpart hpointer
    | some target =>
      rw [hnext] at hpointer
      exact hpart (Schema.isObject_of_conforms (hrecords _ _ hnext) hpointer)
  | onward hmeets _ _ hnext _ ih =>
    have hpointer := Schema.conforms_of_meets h hmeets
    rw [Schema.PointerConforms, hnext] at hpointer
    exact ih hpointer

/-- A value that the model describes is accepted exactly if it comes to no cut with anything but
an object, which it never does where all models of the schema are records. -/
theorem conforming_accepted_iff (options : CompileOptions) (s : Schema) (m : Model) (j : Json)
    (h : s.Conforms options.unknownKeys m j) :
    (((Compiler.ofSchema options s).model m).value.accepts j = true ↔
      ¬Blocked s options.maxDepth [] m j) ∧
    ((∀ name target, s.model? name = some target → target.IsRecord) →
      ((Compiler.ofSchema options s).model m).value.accepts j = true) := by
  have haccepts : ((Compiler.ofSchema options s).model m).value.accepts j = true ↔
      ¬Blocked s options.maxDepth [] m j := accepts_at_path_iff .nil m [] h
  exact ⟨haccepts, fun hrecords => haccepts.mpr (not_blocked hrecords h)⟩

/-- Nodes one after another, with `null` after the last if the model is nullable. -/
def nodeModel (nullable : Bool) : Model where
  kind := .object
  properties := [("next", { pointer := some "Node" })]
  constraints := { nullable }

def nodeSchema (nullable : Bool) : Schema := { models := [("Node", nodeModel nullable)] }

private theorem conforms_before {nullable : Bool} {j : Json}
    (h : (nodeSchema nullable).Conforms .allow (nodeModel nullable) j) :
    (nodeSchema nullable).Conforms .allow (nodeModel nullable) (.obj [("next", j)]) := by
  have hname : Pointer.modelName "Node" = "Node" := by decide +kernel
  refine (Schema.conforms_object rfl _).mpr (.inr ⟨_, rfl, ?_, ?_, ?_⟩)
  · intro name f _ hrequired
    cases hrequired
  · intro name f hf w hw
    rw [nodeModel, List.mem_singleton] at hf
    cases hf
    rw [KeyMap.find?, if_pos rfl] at hw
    cases hw
    have hpointer : (nodeSchema nullable).PointerConforms .allow "Node" j := by
      rw [Schema.PointerConforms, hname]
      exact h
    refine (Schema.fieldConforms_object (.inr ⟨rfl, by simp⟩) _).mpr (.inr ?_)
    rw [Schema.ObjectFieldConforms]
    exact hpointer
  · intro hreject
    cases hreject

private theorem conforms_null : (nodeSchema true).Conforms .allow (nodeModel true) .null :=
  (Schema.conforms_object rfl _).mpr (.inl ⟨rfl, rfl⟩)

private theorem conforms_empty :
    (nodeSchema false).Conforms .allow (nodeModel false) (.obj []) := by
  refine (Schema.conforms_object rfl _).mpr (.inr ⟨[], rfl, ?_, ?_, ?_⟩)
  · intro name f _ hrequired
    cases hrequired
  · intro name f _ w hw
    cases hw
  · intro hreject
    cases hreject

/-- At the second node the reference comes back to the model, and `null` is no object. -/
theorem nullable_nodes_rejected :
    (nodeSchema true).Conforms .allow (nodeModel true) (.obj [("next", .obj [("next", .null)])]) ∧
    ((Compiler.ofSchema {} (nodeSchema true)).model (nodeModel true)).value.accepts
      (.obj [("next", .obj [("next", .null)])]) = false :=
  ⟨conforms_before (conforms_before conforms_null), by decide +kernel⟩

theorem conforming_accepted_iff_nodes :
    Blocked (nodeSchema true) 10 [] (nodeModel true) (.obj [("next", .obj [("next", .null)])]) ∧
    ((Compiler.ofSchema {} (nodeSchema false)).model (nodeModel false)).value.accepts
      (.obj [("next", .obj [("next", .obj [])])]) = true := by
  constructor
  · by_contra hfree
    have haccepts := (conforming_accepted_iff {} _ _ _
      (conforms_before (conforms_before conforms_null))).1.mpr hfree
    revert haccepts
    decide +kernel
  · refine (conforming_accepted_iff {} _ _ _
      (conforms_before (conforms_before conforms_empty))).2 fun name target h => ?_
    have hmem := KeyMap.mem_of_find?_eq_some h
    rw [nodeSchema, List.mem_singleton] at hmem
    cases hmem
    exact ⟨rfl, .inl rfl⟩

end Compile
end RecordShape
