import RecordShape.Proofs.Compile.AnyContext
import RecordShape.Proofs.Compile.Sessions
import RecordShape.Proofs.Shape.Issues

/-!
# Compiled shapes are in normal form

No nullable shape holds another one or `null`, whatever references it was put together over, and a
choice is between two strings at least. Every object is what the compiler makes of some model that
the job leads to: it treats undeclared keys as the options say, and the keys that the model does
not require are the optional ones. Documents alone are made of rows instead, and allow further keys.
-/

namespace RecordShape
open Relation

theorem NumberRules.same_refl (rules : NumberRules) : rules.same rules = true := by
  obtain ⟨integer, minimum, maximum⟩ := rules
  cases minimum <;> cases maximum <;> simp [same, Double.same]

namespace Shape

/-- All parts of the shape have the property, the shape itself among them. -/
def Throughout (P : Shape → Prop) (shape : Shape) : Prop :=
  ∀ path part, shape.Holds path part → P part

namespace Throughout
variable {P Q : Shape → Prop} {shape : Shape}

theorem mono (h : shape.Throughout P) (himp : ∀ part, P part → Q part) : shape.Throughout Q :=
  fun path part hpart => himp part (h path part hpart)

theorem of_isAtom (hatom : shape.IsAtom) (h : P shape) : shape.Throughout P := by
  intro path part hpart
  cases hpart with
  | self => exact h
  | _ => exact hatom.elim

theorem array {items : Shape} (hitems : items.Throughout P) (h : P (.array items)) :
    (Shape.array items).Throughout P := by
  intro path part hpart
  cases hpart with
  | self => exact h
  | element i hpart => exact hitems _ part hpart

theorem nullable {inner : Shape} (hinner : inner.Throughout P) (h : P (.nullable inner)) :
    (Shape.nullable inner).Throughout P := by
  intro path part hpart
  cases hpart with
  | self => exact h
  | inner hpart => exact hinner path part hpart

theorem object {fields : List (String × ShapeField)} {unknownKeys : UnknownKeys}
    (hfields : ∀ key field, (key, field) ∈ fields → field.shape.Throughout P)
    (h : P (.object ⟨fields, unknownKeys⟩)) :
    (Shape.object ⟨fields, unknownKeys⟩).Throughout P := by
  intro path part hpart
  cases hpart with
  | self => exact h
  | field hfield hpart => exact hfields _ _ hfield _ part hpart

end Throughout

theorem orNull_orNull (shape : Shape) : shape.orNull.orNull = shape.orNull := by
  cases shape <;> rfl

theorem same_refl (shape : Shape) : shape.same shape = true := by
  induction shape using Shape.induction with
  | number rules => exact rules.same_refl
  | array items ih => exact ih
  | nullable inner ih => exact ih
  | object fields unknownKeys ih =>
    have hfields : sameFields fields fields = true := by
      induction fields with
      | nil => rfl
      | cons first rest ihrest =>
        obtain ⟨key, shape, isOptional⟩ := first
        have hshape : shape.same shape = true := ih key ⟨shape, isOptional⟩ List.mem_cons_self
        have hrest := ihrest fun key field h => ih key field (List.mem_cons_of_mem _ h)
        simp [sameFields, hshape, hrest]
    simp [same, hfields]
  | _ => simp [same]

end Shape

namespace Compile.Job

/-- The object is compiled from a model of kind object that the job leads to, in a context that it
has there. -/
structure LeadsTo (options : CompileOptions) (job : Job) (ctx : Option Context) (m : Model)
    (o : ObjectShape) : Prop where
  reached : ReflTransGen HandsOn job ⟨ctx, .model m⟩
  kind_eq : m.kind = .object
  eq_value : o = (Compiler.object ⟨options, ctx⟩ m).value
  unknownKeys_eq : o.unknownKeys = options.unknownKeys
  keys_eq : o.keys = m.properties.map Prod.fst
  isOptional_iff : ∀ key field, (key, field) ∈ o.fields →
    (field.isOptional = true ↔ key ∉ m.required)

/-- A part of the shape of a job is as it should be, apart from the parts below it. -/
def IsNormal (options : CompileOptions) (job : Job) : Shape → Prop
  | .nullable .null | .nullable (.nullable _) => False
  | .oneOf texts => 2 ≤ texts.length
  | .object o => ∃ ctx m, job.LeadsTo options ctx m o
  | _ => True

variable {options : CompileOptions} {job next : Job} {ctx : Option Context} {m : Model}
  {shape : Shape}

theorem leadsTo_object (hreached : ReflTransGen HandsOn job ⟨ctx, .model m⟩)
    (hkind : m.kind = .object) :
    job.LeadsTo options ctx m (Compiler.object ⟨options, ctx⟩ m).value where
  reached := hreached
  kind_eq := hkind
  eq_value := rfl
  unknownKeys_eq := rfl
  keys_eq := by simp [Compiler.object, ObjectShape.keys, KeyMap.keys]
  isOptional_iff := by
    intro key field hfield
    simp only [Compiler.object, Compiled.value_bind, Compiled.value_pure, value_fields] at hfield
    obtain ⟨p, -, heq⟩ := List.mem_map.mp hfield
    cases heq
    simp

theorem IsNormal.of_reached {part : Shape} (h : next.IsNormal options part)
    (hreached : ReflTransGen HandsOn job next) : job.IsNormal options part := by
  unfold IsNormal at h ⊢
  split at h
  · exact h
  · exact h
  · exact h
  · obtain ⟨ctx, m, hleads⟩ := h
    exact ⟨ctx, m, { hleads with reached := hreached.trans hleads.reached }⟩
  · trivial

theorem throughout_nullable (c : Constraints) (h : shape.Throughout (job.IsNormal options)) :
    (Compile.nullable c shape).Throughout (job.IsNormal options) := by
  unfold Compile.nullable
  split
  · cases shape with
    | null => exact h
    | nullable inner => exact h
    | _ => exact Shape.Throughout.nullable h trivial
  · exact h

theorem throughout_string (location : List String) (c : Constraints) :
    (string location c).value.Throughout (job.IsNormal options) := by
  rw [value_string]
  split
  · exact .of_isAtom trivial trivial
  · exact .of_isAtom trivial trivial
  · refine .of_isAtom trivial ?_
    dsimp only [IsNormal, List.length_cons]
    omega

theorem throughout_plain (location : List String) (c : Constraints) (kind : TypeTag) :
    (plain location c kind).value.Throughout (job.IsNormal options) := by
  cases kind with
  | string => exact throughout_string location c
  | _ => exact .of_isAtom trivial trivial

theorem value_compiled_object (options : CompileOptions) (ctx : Option Context)
    (hkind : m.kind = .object) (location : List String) :
    (compiled options ⟨ctx, .model m⟩ location).value =
      Compile.nullable m.constraints (.object (Compiler.object ⟨options, ctx⟩ m).value) := by
  rw [value_compiled_eq options ⟨ctx, .model m⟩ location []]
  dsimp only [compiled]
  rw [model_object hkind]
  rfl

theorem throughout_object (hreached : ReflTransGen HandsOn job ⟨ctx, .model m⟩)
    (hkind : m.kind = .object)
    (hfields : ∀ name f, (name, f) ∈ m.properties → ∀ location,
      (compiled options ⟨ctx, .field f⟩ location).value.Throughout (job.IsNormal options)) :
    (Shape.object (Compiler.object ⟨options, ctx⟩ m).value).Throughout (job.IsNormal options) := by
  refine .object (fun key field hfield => ?_) ⟨ctx, m, leadsTo_object hreached hkind⟩
  rw [value_fields] at hfield
  obtain ⟨⟨name, f⟩, hp, heq⟩ := List.mem_map.mp hfield
  cases heq
  exact hfields name f hp ([] ++ [name])

private theorem throughout_model
    (h : ∀ next, HandsOn ⟨ctx, .model m⟩ next → ∀ location,
      (compiled options next location).value.Throughout (IsNormal options ⟨ctx, .model m⟩))
    (location : List String) :
    (compiled options ⟨ctx, .model m⟩ location).value.Throughout
      (IsNormal options ⟨ctx, .model m⟩) := by
  by_cases hobject : m.kind = .object
  · rw [value_compiled_object options ctx hobject]
    apply throughout_nullable
    exact throughout_object .refl hobject fun name f hp => h _ (.property hobject hp)
  rw [model_eq_layer, modelLayer, if_neg hobject]
  split_ifs with harray
  · exact throughout_nullable _ (.array (h _ (.elements harray) location) trivial)
  · exact throughout_nullable _ (throughout_plain location _ _)

private theorem throughout_field {f : Field}
    (h : ∀ next, HandsOn ⟨ctx, .field f⟩ next → ∀ location,
      (compiled options next location).value.Throughout (IsNormal options ⟨ctx, .field f⟩))
    (location : List String) :
    (compiled options ⟨ctx, .field f⟩ location).value.Throughout
      (IsNormal options ⟨ctx, .field f⟩) := by
  rw [field_eq_layer, fieldLayer]
  split_ifs with harray hobject
  · exact throughout_nullable _ (.array (h _ (.fieldElements harray) location) trivial)
  · apply throughout_nullable
    unfold objectFieldLayer
    cases hpointer : f.pointer with
    | some pointer => exact h _ (.fieldPointer hobject hpointer) location
    | none =>
      cases hitems : f.items with
      | some inner => exact h _ (.nested hobject hpointer hitems) location
      | none => exact .of_isAtom trivial trivial
  · exact throughout_nullable _ (throughout_plain location _ _)

private theorem throughout_pointer {pointer : String}
    (h : ∀ next, HandsOn ⟨ctx, .pointer pointer⟩ next → ∀ location,
      (compiled options next location).value.Throughout (IsNormal options ⟨ctx, .pointer pointer⟩))
    (location : List String) :
    (compiled options ⟨ctx, .pointer pointer⟩ location).value.Throughout
      (IsNormal options ⟨ctx, .pointer pointer⟩) := by
  rw [compiled_eq_layer]
  cases ctx with
  | none => exact .of_isAtom trivial trivial
  | some ctx =>
    dsimp only [layer, pointerLayer]
    cases hdescend : ctx.descend (Pointer.modelName pointer) with
    | cycle => exact .of_isAtom trivial trivial
    | tooDeep => exact .of_isAtom trivial trivial
    | proceed next =>
      dsimp only
      cases hm : next.lookup (Pointer.modelName pointer) with
      | none => exact .of_isAtom trivial trivial
      | some m => exact h _ (.target hdescend hm) location

/-- Whatever a job leads to, its shape is in normal form, by induction over the jobs that it hands
on. -/
theorem throughout_compiled (options : CompileOptions) (job : Job) (location : List String) :
    (job.compiled options location).value.Throughout (job.IsNormal options) := by
  induction job.ends generalizing location with
  | intro job _ ih =>
    have hparts (next : Job) (hnext : job.HandsOn next) (location : List String) :
        (next.compiled options location).value.Throughout (job.IsNormal options) :=
      (ih next hnext location).mono fun part hpart => hpart.of_reached (.single hnext)
    obtain ⟨ctx, f | m | i | pointer⟩ := job
    · exact throughout_field hparts location
    · exact throughout_model hparts location
    · rcases i with _ | pointer | m
      · exact .array (.of_isAtom trivial trivial) trivial
      · exact hparts _ .itemsPointer location
      · exact hparts _ .inline location
    · exact throughout_pointer hparts location

end Compile.Job

open Compile Compile.Job

/-- A document allows further keys, and its fields hold the rows of models of the schema. -/
def Schema.IsNormalDocument (s : Schema) (options : CompileOptions) (document : ObjectShape) :
    Prop :=
  document.unknownKeys = .allow ∧ ∀ name field, (name, field) ∈ document.fields →
    ∃ m, (name, m) ∈ s.models ∧ m.isFixture = true ∧
      field.shape.Throughout (IsNormal options ⟨some (.root s options.maxDepth), .model m⟩)

/-- The answer to a call is of the kind that is asked for and in normal form. The properties of a
model can be asked for whatever its kind. -/
def Call.NormalAnswer (options : CompileOptions) : Call → Answer → Prop
  | field f ctx, .shape shape => shape.Throughout (IsNormal options ⟨ctx, .field f⟩)
  | model m ctx, .shape shape => shape.Throughout (IsNormal options ⟨ctx, .model m⟩)
  | object m ctx, .object o =>
    (Shape.object o).Throughout (IsNormal options ⟨ctx, .model { m with kind := .object }⟩)
  | items i ctx, .shape shape => shape.Throughout (IsNormal options ⟨ctx, .items i⟩)
  | resolve pointer ctx, .shape shape => shape.Throughout (IsNormal options ⟨ctx, .pointer pointer⟩)
  | fullDocument s, .object o | partialDocument s, .object o => s.IsNormalDocument options o
  | documents s, .documents d =>
    s.IsNormalDocument options d.full ∧ s.IsNormalDocument options d.part
  | _, _ => False

theorem Compile.isNormalDocument_assemble (s : Schema) (options : CompileOptions)
    (isOptional : Bool) :
    s.IsNormalDocument options (assemble (rows options s).value isOptional) := by
  rw [assemble_rows]
  refine ⟨rfl, fun name field hfield => ?_⟩
  obtain ⟨⟨name, m⟩, hm, heq⟩ := List.mem_map.mp hfield
  cases heq
  obtain ⟨hmem, hfixture⟩ := List.mem_filter.mp hm
  exact ⟨m, hmem, hfixture, .array (throughout_compiled options _ [name]) trivial⟩

namespace Call

theorem normalAnswer_compiled (options : CompileOptions) (call : Call) :
    call.NormalAnswer options (call.compiled options).value := by
  cases call with
  | field f ctx => exact throughout_compiled options ⟨ctx, .field f⟩ []
  | model m ctx => exact throughout_compiled options ⟨ctx, .model m⟩ []
  | object m ctx =>
    -- The kind plays no part here, so the model may as well be one of kind object.
    refine throughout_object (m := { m with kind := .object }) .refl rfl ?_
    intro name f hp location
    refine (throughout_compiled options ⟨ctx, .field f⟩ location).mono fun part hpart => ?_
    exact hpart.of_reached (.single (.property rfl hp))
  | items i ctx => exact throughout_compiled options ⟨ctx, .items i⟩ []
  | resolve pointer ctx => exact throughout_compiled options ⟨ctx, .pointer pointer⟩ []
  | fullDocument s => exact isNormalDocument_assemble s options false
  | partialDocument s => exact isNormalDocument_assemble s options true
  | documents s =>
    exact ⟨isNormalDocument_assemble s options false, isNormalDocument_assemble s options true⟩

/-- Whatever is asked for, with any context or none, all parts of the answer are in normal form. A
shape with `null` added accepts `null` and what it accepts without, and adding `null` twice is
adding it once. -/
theorem answers_in_normal_form :
    (∀ (options : CompileOptions) (ds : List Diagnostic) (call : Call),
      call.NormalAnswer options (call.serve.run ⟨options, ds, []⟩).1) ∧
    ∀ shape : Shape, (∀ j, shape.orNull.accepts j = true ↔ j = .null ∨ shape.accepts j = true) ∧
      shape.orNull.orNull = shape.orNull ∧ shape.orNull.orNull.same shape.orNull = true := by
  refine ⟨fun options ds call => ?_, fun shape => ⟨fun j => Shape.accepts_orNull shape j, ?_, ?_⟩⟩
  · rw [computes_serve options call ds]
    exact normalAnswer_compiled options call
  · exact shape.orNull_orNull
  · rw [shape.orNull_orNull]
    exact Shape.same_refl _

end Call
end RecordShape
