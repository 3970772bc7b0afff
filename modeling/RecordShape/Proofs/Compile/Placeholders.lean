import Mathlib.Data.List.Forall2
import Mathlib.Logic.Relation
import RecordShape.Compile.Document
import RecordShape.Proofs.Compile.Chains

/-!
# Placeholders and their records

Where compiling gives up, it leaves a placeholder in the shape and a record among the diagnostics.
Following the schema from a fixture model along keys, items and references leads to every such
place, and the placeholders from left to right are those of the records in their order. Objects
and arrays of which nothing further is said are the only places without a record.
-/

namespace RecordShape

private theorem forall₂_flatMap {α β γ : Type} {P : β → γ → Prop} {l : List α} {f : α → List β}
    {g : α → List γ} (h : ∀ a ∈ l, List.Forall₂ P (f a) (g a)) :
    List.Forall₂ P (l.flatMap f) (l.flatMap g) := by
  have hsame : List.Forall₂ (fun a b => a = b ∧ a ∈ l) l l :=
    List.forall₂_same.mpr fun a ha => ⟨rfl, ha⟩
  refine List.rel_flatMap hsame ?_
  rintro a _ ⟨rfl, ha⟩
  exact h a ha

namespace Shape

mutual
/-- The keys that lead to the placeholders of a shape that stands under some keys, from left to
right. Arrays and nullable shapes add no key. -/
def placeholders (here : List String) : Shape → List (List String)
  | anyObject => [here]
  | array items => placeholders here items
  | nullable inner => placeholders here inner
  | object ⟨fields, _⟩ => fieldPlaceholders here fields
  | _ => []

def fieldPlaceholders (here : List String) : List (String × ShapeField) → List (List String)
  | [] => []
  | (key, ⟨shape, _⟩) :: rest => placeholders (here ++ [key]) shape ++ fieldPlaceholders here rest
end

theorem fieldPlaceholders_eq (here : List String) (fields : List (String × ShapeField)) :
    fieldPlaceholders here fields =
      fields.flatMap fun p => placeholders (here ++ [p.1]) p.2.shape := by
  induction fields with
  | nil => rfl
  | cons p rest ih =>
    obtain ⟨key, shape, isOptional⟩ := p
    rw [fieldPlaceholders, List.flatMap_cons, ih]

theorem placeholders_object (here : List String) (fields : List (String × ShapeField))
    (keys : UnknownKeys) : placeholders here (object ⟨fields, keys⟩) =
      fields.flatMap fun p => placeholders (here ++ [p.1]) p.2.shape := by
  rw [placeholders, fieldPlaceholders_eq]

theorem placeholders_array (here : List String) (items : Shape) :
    placeholders here (array items) = placeholders here items := by
  rw [placeholders]

theorem placeholders_orNull (here : List String) (shape : Shape) :
    placeholders here shape.orNull = placeholders here shape := by
  cases shape <;> rfl

end Shape

/-- The diagnostic is the record of a placeholder. -/
def Diagnostic.isDegradation (d : Diagnostic) : Bool :=
  match d.code with
  | .danglingReference | .cyclicReference | .depthExceeded | .unknownType => true
  | .missingRegistry | .invalidPattern | .emptyEnum => false

def Compiled.degradations {α : Type} (x : Compiled α) : List Diagnostic :=
  x.diagnostics.filter Diagnostic.isDegradation

mutual
/-- Every array in the model has items, and every object field points at a model or has items. -/
inductive Model.Described : Model → Prop where
  | intro {m : Model} (harray : m.kind = .array → m.items ≠ none)
      (hfields : ∀ name f, (name, f) ∈ m.properties → f.Described)
      (hinner : ∀ inner, m.items = some (.inline inner) → inner.Described) : m.Described

inductive Field.Described : Field → Prop where
  | intro {f : Field} (harray : f.kind = .array → f.items ≠ none)
      (hobject : f.kind = .object → f.pointer ≠ none ∨ f.items ≠ none)
      (hinner : ∀ inner, f.items = some (.inline inner) → inner.Described) : f.Described
end

namespace Compile

/-- The parts of a schema that compiling goes through. -/
inductive Node where
  | model (m : Model)
  | field (f : Field)
  | items (i : Option Items)
  | pointer (p : String)

/-- A part of a schema as compiling comes to it. -/
structure Place where
  /-- The models whose references were followed, outermost first. -/
  path : List String
  /-- The keys that lead there from the root of the document. -/
  keys : List String
  node : Node

/-- One step of compiling. Only properties add a key, and only references add to the path. -/
inductive Step (s : Schema) (maxDepth : Nat) : Place → Place → Prop where
  | property {path keys : List String} {m : Model} {name : String} {f : Field}
      (hkind : m.kind = .object) (hf : (name, f) ∈ m.properties) :
      Step s maxDepth ⟨path, keys, .model m⟩ ⟨path, keys ++ [name], .field f⟩
  | modelElements {path keys : List String} {m : Model} (hkind : m.kind = .array) :
      Step s maxDepth ⟨path, keys, .model m⟩ ⟨path, keys, .items m.items⟩
  | fieldElements {path keys : List String} {f : Field} (hkind : f.kind = .array) :
      Step s maxDepth ⟨path, keys, .field f⟩ ⟨path, keys, .items f.items⟩
  | fieldPointer {path keys : List String} {f : Field} {p : String} (hobject : f.CountsAsObject)
      (hp : f.pointer = some p) : Step s maxDepth ⟨path, keys, .field f⟩ ⟨path, keys, .pointer p⟩
  | nested {path keys : List String} {f : Field} (hobject : f.CountsAsObject)
      (hp : f.pointer = none) :
      Step s maxDepth ⟨path, keys, .field f⟩ ⟨path, keys, .items f.items⟩
  | reference {path keys : List String} {p : String} :
      Step s maxDepth ⟨path, keys, .items (some (.reference p))⟩ ⟨path, keys, .pointer p⟩
  | inline {path keys : List String} {m : Model} :
      Step s maxDepth ⟨path, keys, .items (some (.inline m))⟩ ⟨path, keys, .model m⟩
  | follow {path keys : List String} {p : String} {next : Model}
      (hnew : Pointer.modelName p ∉ path) (hroom : path.length < maxDepth)
      (hnext : s.model? (Pointer.modelName p) = some next) :
      Step s maxDepth ⟨path, keys, .pointer p⟩ ⟨path ++ [Pointer.modelName p], keys, .model next⟩

/-- Compiling gives up at the place and leaves the record: the kind is not known, or the reference
is not followed. -/
inductive Degraded (s : Schema) (maxDepth : Nat) : Place → Diagnostic → Prop where
  | unknownModel {path keys : List String} {m : Model} {tag : String}
      (hkind : m.kind = .other tag) :
      Degraded s maxDepth ⟨path, keys, .model m⟩ (.unknownType (".".intercalate keys) tag)
  | unknownField {path keys : List String} {f : Field} {tag : String}
      (hkind : f.kind = .other tag) (hobject : ¬f.CountsAsObject) :
      Degraded s maxDepth ⟨path, keys, .field f⟩ (.unknownType (".".intercalate keys) tag)
  | cutOff {path keys : List String} {p : String} {d : Diagnostic}
      (h : CutOff s maxDepth path (Pointer.modelName p) d) :
      Degraded s maxDepth ⟨path, keys, .pointer p⟩ d

theorem Degraded.fields {s : Schema} {maxDepth : Nat} {place : Place} {d : Diagnostic}
    (h : Degraded s maxDepth place d) :
    (d.code = .unknownType ∧ d.subject = ".".intercalate place.keys ∧ d.context = []) ∨
      ∃ p, place.node = .pointer p ∧ CutOff s maxDepth place.path (Pointer.modelName p) d := by
  cases h with
  | unknownModel => exact .inl ⟨rfl, rfl, rfl⟩
  | unknownField => exact .inl ⟨rfl, rfl, rfl⟩
  | cutOff hcut => exact .inr ⟨_, rfl, hcut⟩

theorem Degraded.subject_eq {s : Schema} {maxDepth : Nat} {place : Place} {d : Diagnostic}
    (h : Degraded s maxDepth place d) (hcode : d.code = .unknownType) :
    d.subject = ".".intercalate place.keys := by
  rcases h.fields with ⟨-, hsubject, -⟩ | ⟨p, -, hcut⟩
  · exact hsubject
  · cases hcut <;> cases hcode

theorem placeholders_nullable (here : List String) (c : Constraints) (shape : Shape) :
    (nullable c shape).placeholders here = shape.placeholders here := by
  unfold nullable
  split
  · exact Shape.placeholders_orNull here shape
  · rfl

/-- From a place, compiling comes to one under the given keys that leaves the record. -/
def Place.Loses (s : Schema) (maxDepth : Nat) (start : Place) (keys : List String)
    (d : Diagnostic) : Prop :=
  ∃ place, Relation.ReflTransGen (Step s maxDepth) start place ∧ place.keys = keys ∧
    Degraded s maxDepth place d

theorem Place.Loses.before {s : Schema} {maxDepth : Nat} {start next : Place}
    {keys : List String} {d : Diagnostic} (hstep : Step s maxDepth start next)
    (h : next.Loses s maxDepth keys d) : start.Loses s maxDepth keys d := by
  obtain ⟨place, hsteps, hplace⟩ := h
  exact ⟨place, .head hstep hsteps, hplace⟩

theorem Place.Loses.subject_eq {s : Schema} {maxDepth : Nat} {start : Place}
    {keys : List String} {d : Diagnostic} (h : start.Loses s maxDepth keys d)
    (hcode : d.code = .unknownType) : d.subject = ".".intercalate keys := by
  obtain ⟨place, -, rfl, hdegraded⟩ := h
  exact hdegraded.subject_eq hcode

/-- The placeholders of a shape, from left to right, are those of the records. -/
def Recorded (s : Schema) (maxDepth : Nat) (start : Place) (x : Compiled Shape) : Prop :=
  List.Forall₂ (start.Loses s maxDepth) (x.value.placeholders start.keys) x.degradations

namespace Recorded
variable {s : Schema} {maxDepth : Nat} {start next : Place} {x : Compiled Shape}

theorem of_none (hvalue : x.value.placeholders start.keys = []) (hnone : x.degradations = []) :
    Recorded s maxDepth start x := by
  rw [Recorded, hvalue, hnone]
  exact .nil

theorem of_degraded {d : Diagnostic} (hd : d.isDegradation = true)
    (h : Degraded s maxDepth start d) : Recorded s maxDepth start (.degraded d) := by
  have hrecords : (Compiled.degraded d).degradations = [d] := by
    simp [Compiled.degradations, hd]
  rw [Recorded, hrecords]
  exact .cons ⟨start, .refl, rfl, h⟩ .nil

theorem before (hstep : Step s maxDepth start next) (hkeys : start.keys = next.keys)
    (h : Recorded s maxDepth next x) : Recorded s maxDepth start x := by
  rw [Recorded, hkeys]
  exact h.imp fun keys d hloses => hloses.before hstep

theorem wrapped (h : Recorded s maxDepth start x) (c : Constraints) {wrap : Shape → Shape}
    (hwrap : ∀ shape : Shape,
      (wrap shape).placeholders start.keys = shape.placeholders start.keys) :
    Recorded s maxDepth start (do let a ← x; return nullable c (wrap a)) := by
  rw [Recorded, Compiled.value_bind, Compiled.value_pure, placeholders_nullable, hwrap,
    Compiled.degradations, Compiled.diagnostics_bind, Compiled.diagnostics_pure, List.append_nil]
  exact h

end Recorded

theorem placeholders_string (here location : List String) (c : Constraints) :
    (string location c).value.placeholders here = [] := by
  rw [value_string]
  split <;> rfl

theorem degradations_string (location : List String) (c : Constraints) :
    (string location c).degradations = [] := by
  refine List.filter_eq_nil_iff.mpr fun d hd => ?_
  rcases code_of_mem_string hd with hcode | hcode <;> simp [Diagnostic.isDegradation, hcode]

section
variable {s : Schema} {options : CompileOptions} {path : List String}

theorem recorded_plain {location : List String} (hlocation : location ≠ []) {kind : TypeTag}
    {node : Node} (hobject : kind ≠ .object) (harray : kind ≠ .array) (c : Constraints)
    (hunknown : ∀ tag, kind = .other tag → Degraded s options.maxDepth ⟨path, location, node⟩
      (.unknownType (".".intercalate location) tag)) :
    Recorded s options.maxDepth ⟨path, location, node⟩ (plain location c kind) := by
  cases kind with
  | object => exact absurd rfl hobject
  | array => exact absurd rfl harray
  | string => exact .of_none (placeholders_string _ _ _) (degradations_string _ _)
  | other tag =>
    have hsubject : subject location = ".".intercalate location := by
      simp [subject, hlocation]
    rw [plain, unknownKind, hsubject]
    exact .of_degraded rfl (hunknown tag rfl)
  | _ => exact .of_none rfl rfl

theorem recorded_object {location : List String} {m : Model} (hkind : m.kind = .object)
    {follow : List String → String → Compiled Shape}
    (h : ∀ name f, (name, f) ∈ m.properties →
      Recorded s options.maxDepth ⟨path, location ++ [name], .field f⟩
        (field options follow (location ++ [name]) f)) :
    Recorded s options.maxDepth ⟨path, location, .model m⟩ (model options follow location m) := by
  rw [model_object hkind, Recorded, Compiled.value_bind, Compiled.value_pure,
    placeholders_nullable, value_fields, Shape.placeholders_object, List.flatMap_map,
    Compiled.degradations, Compiled.diagnostics_bind, Compiled.diagnostics_pure, List.append_nil,
    diagnostics_fields, List.filter_flatMap]
  refine forall₂_flatMap fun p hp => (h p.1 p.2 hp).imp fun keys d hloses => ?_
  exact hloses.before (.property hkind hp)

private theorem recorded_nesting
    (hfollow : ∀ location, location ≠ [] → ∀ pointer,
      Recorded s options.maxDepth ⟨path, location, .pointer pointer⟩
        (following options s path location pointer)) : NestingCases
    (fun m => m.Described → ∀ location, location ≠ [] →
      Recorded s options.maxDepth ⟨path, location, .model m⟩
        (model options (following options s path) location m))
    (fun f => f.Described → ∀ location, location ≠ [] →
      Recorded s options.maxDepth ⟨path, location, .field f⟩
        (field options (following options s path) location f))
    (fun i => i ≠ none → (∀ inner, i = some (.inline inner) → inner.Described) →
      ∀ location, location ≠ [] → Recorded s options.maxDepth ⟨path, location, .items i⟩
        (items options (following options s path) location i)) := by
  constructor
  · intro m hfields hitems hdescribed location hlocation
    obtain ⟨hneeded, hfieldsDescribed, hinner⟩ := hdescribed
    by_cases hobject : m.kind = .object
    · exact recorded_object hobject fun name f hf =>
        hfields name f hf (hfieldsDescribed name f hf) (location ++ [name]) (by simp)
    by_cases harray : m.kind = .array
    · rw [model_array harray]
      have hrecorded := hitems (hneeded harray) hinner location hlocation
      exact (hrecorded.before (.modelElements harray) rfl).wrapped _ (Shape.placeholders_array _)
    · rw [model_plain hobject harray]
      exact (recorded_plain hlocation hobject harray _ fun tag htag =>
        .unknownModel htag).wrapped _ fun _ => rfl
  · intro f hitems hdescribed location hlocation
    obtain ⟨hneeded, hobjectNeeds, hinner⟩ := hdescribed
    by_cases hobject : f.CountsAsObject
    · rw [field_object hobject]
      refine Recorded.wrapped ?_ _ fun _ => rfl
      cases hp : f.pointer with
      | some pointer =>
        rw [objectField_pointer]
        exact (hfollow location hlocation pointer).before (.fieldPointer hobject hp) rfl
      | none =>
        -- A field that counts as an object without a pointer is one by its kind.
        have hsome : f.items ≠ none := by
          rcases hobject with hkind | ⟨-, hpointer⟩
          · exact (hobjectNeeds hkind).resolve_left (by simp [hp])
          · exact absurd hp hpointer
        have hrecorded := (hitems hsome hinner location hlocation).before (.nested hobject hp) rfl
        cases hi : f.items with
        | none => exact absurd hi hsome
        | some inner =>
          rw [hi] at hrecorded
          rw [objectField_items]
          exact hrecorded
    by_cases harray : f.kind = .array
    · rw [field_array harray]
      have hrecorded := hitems (hneeded harray) hinner location hlocation
      exact (hrecorded.before (.fieldElements harray) rfl).wrapped _ (Shape.placeholders_array _)
    · have hkind : f.kind ≠ .object := fun h => hobject (.inl h)
      rw [field_plain hobject harray]
      exact (recorded_plain hlocation hkind harray _ fun tag htag =>
        .unknownField htag hobject).wrapped _ fun _ => rfl
  · -- Missing items leave a placeholder without a record, so they are ruled out here.
    intro hnone
    exact absurd rfl hnone
  · intro pointer _ _ location hlocation
    exact (hfollow location hlocation pointer).before .reference rfl
  · intro m hm _ hinner location hlocation
    exact (hm (hinner m rfl) location hlocation).before .inline rfl

/-- Pointers at the end of a path lead to what is recorded, since every model that they can lead
to is described. -/
theorem recorded_following (hdescribed : ∀ name m, s.model? name = some m → m.Described)
    (hpath : s.IsPath path) (hlen : path.length ≤ options.maxDepth) (location : List String)
    (hlocation : location ≠ []) (pointer : String) :
    Recorded s options.maxDepth ⟨path, location, .pointer pointer⟩
      (following options s path location pointer) := by
  induction path, hpath using Schema.IsPath.induction_on generalizing location pointer with
  | step path hpath ih =>
    rw [following_eq hpath]
    by_cases hmem : Pointer.modelName pointer ∈ path
    · rw [if_pos hmem]
      exact .of_degraded rfl (.cutOff (.cycle hlen hmem))
    rw [if_neg hmem]
    by_cases hfull : options.maxDepth ≤ path.length
    · rw [if_pos hfull]
      exact .of_degraded rfl (.cutOff (.depth (by omega) hmem))
    rw [if_neg hfull]
    have hroom : path.length < options.maxDepth := by omega
    cases hnext : s.model? (Pointer.modelName pointer) with
    | none => exact .of_degraded rfl (.cutOff (.dangling hroom hnext))
    | some next =>
      have hlen' : (path ++ [Pointer.modelName pointer]).length ≤ options.maxDepth := by
        rw [List.length_append, List.length_singleton]
        omega
      have hrecorded := (recorded_nesting (ih _ next hmem hnext hlen')).all_model next
        (hdescribed _ next hnext) location hlocation
      exact hrecorded.before (.follow hmem hroom hnext) rfl

/-- The placeholders of a full document, from left to right, are those of its records in their
order, and the record of an unknown kind names the keys that lead to its placeholder. -/
theorem placeholders_recorded (options : CompileOptions) (s : Schema)
    (hdescribed : ∀ name m, (name, m) ∈ s.models → m.Described) :
    List.Forall₂
      (fun keys d =>
        (∃ name m, (name, m) ∈ s.models ∧ m.isFixture = true ∧
          Place.Loses s options.maxDepth ⟨[], [name], .model m⟩ keys d) ∧
        (d.code = .unknownType → d.subject = ".".intercalate keys))
      (Shape.placeholders [] (.object (s.fullDocument options).value))
      (s.fullDocument options).degradations := by
  have hmodel (name : String) (m : Model) (hm : (name, m) ∈ s.models) :
      Recorded s options.maxDepth ⟨[], [name], .model m⟩
        ((Compiler.ofSchema options s).modelAt [name] m) :=
    (recorded_nesting (recorded_following (fun name m hm =>
      hdescribed name m (KeyMap.mem_of_find?_eq_some hm)) .nil (Nat.zero_le _))).all_model m
      (hdescribed name m hm) [name] (by simp)
  rw [Schema.value_fullDocument, assemble_rows, Shape.placeholders_object, List.flatMap_map,
    Compiled.degradations, Schema.diagnostics_fullDocument, rows, diagnostics_rowsOf,
    List.filter_flatMap]
  refine forall₂_flatMap fun p hp => ?_
  obtain ⟨hp, hfixture⟩ := List.mem_filter.mp hp
  rw [List.nil_append, Shape.placeholders_array]
  refine (hmodel p.1 p.2 hp).imp fun keys d hloses => ?_
  exact ⟨⟨p.1, p.2, hp, hfixture, hloses⟩, hloses.subject_eq⟩

/-- Books have a format of a kind that is not known. -/
def bookModel : Model where
  kind := .object
  properties := [("format", { kind := .other "isbn" })]
  constraints := { nullable := true }

/-- Shelves hold books and lead to the next shelf. -/
def shelfModel : Model where
  kind := .object
  properties :=
    [("books", { kind := .array, items := some (.inline bookModel) }), ("next", .toModel "Shelf")]

def shelfSchema : Schema := { models := [("Shelf", shelfModel)] }

private theorem bookModel_described : bookModel.Described := by
  refine .intro (fun h => nomatch h) (fun name f hf => ?_) (fun _ h => nomatch h)
  cases List.mem_singleton.mp hf
  exact .intro (fun h => nomatch h) (fun h => nomatch h) (fun _ h => nomatch h)

private theorem shelfModel_described : shelfModel.Described := by
  refine .intro (fun h => nomatch h) (fun name f hf => ?_) (fun _ h => nomatch h)
  rw [shelfModel, List.mem_cons, List.mem_singleton] at hf
  rcases hf with hf | hf <;> cases hf
  · refine .intro (fun _ h => nomatch h) (fun h => nomatch h) fun inner h => ?_
    cases h
    exact bookModel_described
  · exact .intro (fun h => nomatch h) (fun _ => .inl fun h => nomatch h) (fun _ h => nomatch h)

/-- Behind the reference to the next shelf, the format of the books is lost once more. -/
theorem placeholders_recorded_shelf :
    (∀ name m, (name, m) ∈ shelfSchema.models → m.Described) ∧
    Shape.placeholders [] (.object (shelfSchema.fullDocument {}).value) =
      [["Shelf", "books", "format"], ["Shelf", "next", "books", "format"],
        ["Shelf", "next", "next"]] ∧
    (shelfSchema.fullDocument {}).degradations =
      [.unknownType "Shelf.books.format" "isbn", .unknownType "Shelf.next.books.format" "isbn",
        .cyclicReference "Shelf" "Shelf"] ∧
    Place.Loses shelfSchema defaultMaxDepth ⟨[], ["Shelf"], .model shelfModel⟩
      ["Shelf", "next", "books", "format"] (.unknownType "Shelf.next.books.format" "isbn") := by
  have hdescribed (name : String) (m : Model) (hm : (name, m) ∈ shelfSchema.models) :
      m.Described := by
    cases List.mem_singleton.mp hm
    exact shelfModel_described
  have hplaceholders : Shape.placeholders [] (.object (shelfSchema.fullDocument {}).value) =
      [["Shelf", "books", "format"], ["Shelf", "next", "books", "format"],
        ["Shelf", "next", "next"]] := by
    decide +kernel
  have hrecords : (shelfSchema.fullDocument {}).degradations =
      [.unknownType "Shelf.books.format" "isbn", .unknownType "Shelf.next.books.format" "isbn",
        .cyclicReference "Shelf" "Shelf"] := by
    decide +kernel
  have hall := placeholders_recorded {} shelfSchema hdescribed
  rw [hplaceholders, hrecords] at hall
  obtain ⟨-, hrest⟩ := List.forall₂_cons.mp hall
  obtain ⟨⟨⟨name, m, hm, -, hloses⟩, -⟩, -⟩ := List.forall₂_cons.mp hrest
  cases List.mem_singleton.mp hm
  exact ⟨hdescribed, hplaceholders, hrecords, hloses⟩

end
end Compile
end RecordShape
