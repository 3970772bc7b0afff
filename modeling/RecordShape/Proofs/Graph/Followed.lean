import RecordShape.Proofs.Compile.Comparison
import RecordShape.Proofs.Compile.References
import RecordShape.Proofs.Graph.Reachability
import RecordShape.Proofs.Schema.Keys

/-!
# References that are followed

The graph collects the references of a model by a walk of its own. Where nothing can be expanded,
compiling leaves one diagnostic at every reference, which makes the two walks comparable: they come
to the same references in the same order. Every one of them is an edge of the graph or dangling.
-/

namespace RecordShape

/-- The models that the references of a model name, in order. -/
def Model.targets (m : Model) : List String := (Occurrence.inModel [] m).map Occurrence.target

namespace Compiled
variable {α : Type}

/-- The diagnostics with a code, in order. -/
def noted (x : Compiled α) (code : DiagnosticCode) : List Diagnostic :=
  x.diagnostics.filter fun d => d.code = code

/-- The diagnostics with any other code, in order. -/
def besides (x : Compiled α) (code : DiagnosticCode) : List Diagnostic :=
  x.diagnostics.filter fun d => d.code ≠ code

end Compiled

namespace Compile
variable {options : CompileOptions} {follow follow' : List String → String → Compiled Shape}
  {code code' : DiagnosticCode} {note note' : String → Diagnostic}

/-- No pointer is expanded. Each leaves the placeholder, and a diagnostic with the code, about the
model that it names. -/
structure Blocked (follow : List String → String → Compiled Shape) (code : DiagnosticCode)
    (note : String → Diagnostic) : Prop where
  eq : ∀ location pointer, follow location pointer = .degraded (note (Pointer.modelName pointer))
  code_note : ∀ target, (note target).code = code
  subject_note : ∀ target, (note target).subject = target
  isReference : ∀ d : Diagnostic, d.code = code → d.isReference = true

namespace Blocked

theorem references_model (h : Blocked follow code note) (location : List String) (m : Model) :
    (model options follow location m).references = m.targets.map note := by
  have hfollow (location : List String) (pointer : String) :
      (follow location pointer).references = [note (Pointer.modelName pointer)] := by
    rw [h.eq, Compiled.references_degraded (h.isReference _ (h.code_note _))]
  rw [Compile.references_model hfollow m [] location, Model.targets, List.map_map,
    List.map_eq_flatMap]
  rfl

theorem code_eq_iff (h : Blocked follow code note) {location : List String} {m : Model}
    {d : Diagnostic} (hd : d ∈ (model options follow location m).diagnostics) :
    d.code = code ↔ d.isReference = true := by
  refine ⟨h.isReference d, fun href => ?_⟩
  have hmem : d ∈ (model options follow location m).references := List.mem_filter.mpr ⟨hd, href⟩
  rw [h.references_model] at hmem
  obtain ⟨target, -, rfl⟩ := List.mem_map.mp hmem
  exact h.code_note target

/-- What is noted with the code is one diagnostic for each reference, in order. -/
theorem noted_model (h : Blocked follow code note) (location : List String) (m : Model) :
    (model options follow location m).noted code = m.targets.map note := by
  have hreferences : (model options follow location m).references = m.targets.map note :=
    h.references_model location m
  rw [← hreferences]
  refine List.filter_congr fun d hd => Bool.eq_iff_iff.mpr ?_
  rw [decide_eq_true_eq, h.code_eq_iff hd]

theorem subjects_model (h : Blocked follow code note) (location : List String) (m : Model) :
    ((model options follow location m).noted code).map Diagnostic.subject = m.targets := by
  rw [h.noted_model, List.map_map]
  exact List.map_id'' h.subject_note _

theorem besides_model (h : Blocked follow code note) (location : List String) (m : Model) :
    (model options follow location m).besides code =
      (model options follow location m).diagnostics.filter fun d => !d.isReference := by
  refine List.filter_congr fun d hd => Bool.eq_iff_iff.mpr ?_
  rw [decide_eq_true_eq, Ne, h.code_eq_iff hd, Bool.not_eq_true', Bool.not_eq_true]

/-- Why pointers are not expanded does not show in the shape, nor in the other diagnostics. -/
theorem agree (h : Blocked follow code note) (h' : Blocked follow' code' note')
    (location : List String) (m : Model) :
    (model options follow location m).value = (model options follow' location m).value ∧
      (model options follow location m).besides code =
        (model options follow' location m).besides code' := by
  have hcompare : Comparison options.unknownKeys options.unknownKeys Eq fun ds ds' =>
      (ds.filter fun d => !d.isReference) = ds'.filter fun d => !d.isReference :=
    { comparison_eq options.unknownKeys with
      same := fun _ => rfl
      append := fun _ _ _ _ hds hes => by rw [List.filter_append, List.filter_append, hds, hes] }
  have hpointer (location : List String) (pointer : String) :
      (follow location pointer).Alike Eq
        (fun ds ds' => (ds.filter fun d => !d.isReference) = ds'.filter fun d => !d.isReference)
        (follow' location pointer) := by
    rw [h.eq, h'.eq]
    refine ⟨rfl, ?_⟩
    simp [h.isReference _ (h.code_note _), h'.isReference _ (h'.code_note _)]
  have halike := alike_model hcompare m [] (fun o _ location => hpointer location o.pointer)
    location
  rw [h.besides_model, h'.besides_model]
  exact ⟨halike.value, halike.diagnostics⟩

end Blocked

theorem blocked_without_schema (options : CompileOptions) :
    Blocked (Compiler.mk options none).follow .missingRegistry .missingRegistry where
  eq _ _ := rfl
  code_note _ := rfl
  subject_note _ := rfl
  isReference d hcode := by rw [Diagnostic.isReference, hcode]

theorem blocked_at_depth_zero (options : CompileOptions) (s : Schema) :
    Blocked (Compiler.mk options (some (.root s 0))).follow .depthExceeded
      fun target => .depthExceeded target "<root>" 0 where
  eq location pointer := by
    rw [Compiler.follow, resolve.eq_def]
    rfl
  code_note _ := rfl
  subject_note _ := rfl
  isReference d hcode := by rw [Diagnostic.isReference, hcode]

theorem blocked_in_empty_schema (options : CompileOptions) (maxDepth : Nat) :
    Blocked (Compiler.mk options (some (.root {} (maxDepth + 1)))).follow .danglingReference
      fun target => .danglingReference target "<root>" where
  eq location pointer := by
    rw [Compiler.follow, resolve.eq_def]
    rfl
  code_note _ := rfl
  subject_note _ := rfl
  isReference d hcode := by rw [Diagnostic.isReference, hcode]

end Compile

namespace ReferenceGraph
variable {s : Schema} {name : String} {m : Model}

theorem names_ordered (hkeys : s.models.Ordered) : (ofSchema s).names.Pairwise (· < ·) := by
  rw [names_ofSchema]
  exact List.pairwise_map.mpr hkeys

theorem contains_names (target : String) :
    (ofSchema s).names.contains target = (s.model? target).isSome := by
  rw [Bool.eq_iff_iff, List.contains_iff_mem, mem_names_ofSchema, Option.isSome_iff_exists]

theorem mem_referencesFrom_iff (hm : s.model? name = some m) (target : String) :
    target ∈ (ofSchema s).referencesFrom name ↔
      target ∈ m.targets ∧ ∃ next, s.model? target = some next := by
  change (ofSchema s).Refers name target ↔ _
  rw [refers_iff, mem_names_ofSchema, occurrencesOf_ofSchema, hm, and_comm, Model.targets,
    List.mem_map]
  rfl

theorem dangling_ofSchema (s : Schema) :
    (ofSchema s).dangling = s.models.flatMap fun entry =>
      ((Occurrence.inModel [] entry.2).filter fun o => (s.model? o.target).isNone).map fun o =>
        { fromModel := entry.1
          site := o.site.text
          target := o.target
          suggestions := Similarity.suggestions o.target (ofSchema s).names } := by
  simp only [dangling, contains_names, Option.not_isSome]
  rw [ofSchema, List.flatMap_map]

/-- The dangling references of a model are its references to what is no model. -/
theorem dangling_from (hkeys : s.models.Ordered) (hm : s.model? name = some m) :
    ((ofSchema s).dangling.filter fun e => e.fromModel = name).map DanglingReference.target =
      m.targets.filter fun target => (s.model? target).isNone := by
  rw [dangling_ofSchema, KeyMap.filter_flatMap hkeys hm, List.map_map, Model.targets,
    List.filter_map]
  · rfl
  · intro entry e he
    obtain ⟨o, -, rfl⟩ := List.mem_map.mp he
    rfl

theorem referenceCount_add_dangling (s : Schema) :
    (ofSchema s).referenceCount + (ofSchema s).dangling.length =
      (s.models.flatMap fun entry => entry.2.targets).length := by
  let all := s.models.flatMap fun entry => Occurrence.inModel [] entry.2
  have hedges : (ofSchema s).referenceCount =
      (all.filter fun o => (s.model? o.target).isSome).length := by
    simp only [referenceCount, contains_names, all, List.filter_flatMap]
    rw [ofSchema, List.flatMap_map]
  have hdangling : (ofSchema s).dangling.length =
      (all.filter fun o => (s.model? o.target).isNone).length := by
    simp only [dangling_ofSchema, all, List.filter_flatMap, List.length_flatMap, List.length_map]
  have htargets : (s.models.flatMap fun entry => entry.2.targets).length = all.length := by
    simp only [all, Model.targets, List.length_flatMap, List.length_map]
  have hsplit : all.length = (all.filter fun o => (s.model? o.target).isSome).length +
      (all.filter fun o => !(s.model? o.target).isSome).length :=
    List.length_eq_length_filter_add _
  simp only [Option.not_isSome] at hsplit
  rw [hedges, hdangling, htargets, hsplit]

/-- Compiling and the graph come to the same references. What a model compiles to where nothing can
be expanded tells them one by one, and is otherwise the same whatever the reason. In the graph of a
schema they are the models referred to, and the dangling references. -/
theorem same_references_followed :
    (∀ (options : CompileOptions) (m : Model),
      let apart := (Compiler.mk options none).model m
      (apart.noted .missingRegistry = m.targets.map Diagnostic.missingRegistry ∧
        (apart.noted .missingRegistry).map Diagnostic.subject = m.targets) ∧
      (∀ s : Schema,
        let atBound := (Compiler.mk options (some (.root s 0))).model m
        (atBound.noted .depthExceeded =
            m.targets.map (fun target => .depthExceeded target "<root>" 0) ∧
          (atBound.noted .depthExceeded).map Diagnostic.subject = m.targets) ∧
        atBound.value = apart.value ∧
        atBound.besides .depthExceeded = apart.besides .missingRegistry) ∧
      ∀ maxDepth : Nat,
        let astray := (Compiler.mk options (some (.root {} (maxDepth + 1)))).model m
        (astray.noted .danglingReference =
            m.targets.map (fun target => .danglingReference target "<root>") ∧
          (astray.noted .danglingReference).map Diagnostic.subject = m.targets) ∧
        astray.value = apart.value ∧
        astray.besides .danglingReference = apart.besides .missingRegistry) ∧
    ∀ s : Schema, s.models.Ordered →
      (∀ name m, s.model? name = some m →
        ((ofSchema s).referencesFrom name).Pairwise (· < ·) ∧
        (∀ target, target ∈ (ofSchema s).referencesFrom name ↔
          target ∈ m.targets ∧ ∃ next, s.model? target = some next) ∧
        ((ofSchema s).dangling.filter fun e => e.fromModel = name).map DanglingReference.target =
          m.targets.filter fun target => (s.model? target).isNone) ∧
      (ofSchema s).referenceCount + (ofSchema s).dangling.length =
        (s.models.flatMap fun entry => entry.2.targets).length := by
  refine ⟨fun options m => ?_, fun s hkeys => ⟨fun name m hm => ⟨?_, ?_, ?_⟩, ?_⟩⟩
  · have hapart := Compile.blocked_without_schema options
    refine ⟨⟨hapart.noted_model [] m, hapart.subjects_model [] m⟩, fun s => ?_,
      fun maxDepth => ?_⟩
    · have hbound := Compile.blocked_at_depth_zero options s
      exact ⟨⟨hbound.noted_model [] m, hbound.subjects_model [] m⟩, hbound.agree hapart [] m⟩
    · have hastray := Compile.blocked_in_empty_schema options maxDepth
      exact ⟨⟨hastray.noted_model [] m, hastray.subjects_model [] m⟩, hastray.agree hapart [] m⟩
  · exact (names_ordered hkeys).sublist (referencesFrom_selected name).sublist
  · exact mem_referencesFrom_iff hm
  · exact dangling_from hkeys hm
  · exact referenceCount_add_dangling s

/-- Forms have a list, a note, an owner and two fields without a kind. The pointers of the list and
the note and the items of the others but the list are not followed. -/
def formModel : Model where
  kind := .object
  properties :=
    [("entries", { kind := .array, items := some (.reference "Entry"), pointer := some "Log" }),
      ("note", { kind := .string, pointer := some "Text" }),
      ("owner", { kind := .object, items := some (.reference "Group"), pointer := some "User" }),
      ("place", { items := some (.reference "Place") }),
      ("reader", { items := some (.reference "Group"), pointer := some "User" })]

def formSchema : Schema where
  models := [("Form", formModel), ("User", { kind := .object })]

theorem same_references_followed_form : formSchema.models.Ordered ∧
    formSchema.model? "Form" = some formModel ∧ formModel.targets = ["Entry", "User", "User"] ∧
    (((Compiler.mk {} (some (.root formSchema 0))).model formModel).noted .depthExceeded).map
      Diagnostic.subject = ["Entry", "User", "User"] ∧
    (ofSchema formSchema).referencesFrom "Form" = ["User"] ∧
    "User" ∈ formModel.targets ∧
    ((ofSchema formSchema).dangling.filter fun e => e.fromModel = "Form").map
      DanglingReference.target = ["Entry"] ∧
    (ofSchema formSchema).referenceCount + (ofSchema formSchema).dangling.length = 3 := by
  have hkeys : formSchema.models.Ordered := by
    unfold KeyMap.Ordered
    decide +kernel
  have htargets : formModel.targets = ["Entry", "User", "User"] := by decide +kernel
  have hrefers : (ofSchema formSchema).referencesFrom "Form" = ["User"] := by decide +kernel
  obtain ⟨hcompiled, hgraph⟩ := same_references_followed
  obtain ⟨hmodels, hcount⟩ := hgraph formSchema hkeys
  obtain ⟨-, hmem, hdangling⟩ := hmodels "Form" formModel rfl
  refine ⟨hkeys, rfl, htargets, ?_, hrefers, ?_, ?_, ?_⟩
  · rw [← htargets]
    exact ((hcompiled {} formModel).2.1 formSchema).1.2
  · exact ((hmem "User").mp (by rw [hrefers]; exact List.mem_singleton_self _)).1
  · rw [hdangling, htargets]
    decide +kernel
  · rw [hcount]
    decide +kernel

end ReferenceGraph
end RecordShape
