import RecordShape.Proofs.Compile.AnyContext
import RecordShape.Proofs.Graph.Agreement
import RecordShape.Proofs.Schema.Pointers

/-!
# Which model a pointer leads to

Compiling and the graph know a pointer by the name that it spells, and look for a model of this
name. So they come to the same model, or miss the same one.
-/

namespace RecordShape

namespace Context

theorem schema_of_descend {ctx next : Context} {name : String}
    (h : ctx.descend name = .proceed next) : next.schema = ctx.schema := by
  obtain ⟨-, -, rfl⟩ := descend_eq_proceed_iff.mp h
  rfl

end Context

namespace Compiler

/-- What compiling makes of a reference to the model of a name, on the way in a context. -/
def reference (options : CompileOptions) (ctx : Context) (location : List String) (name : String) :
    Compiled Shape :=
  match ctx.descend name with
  | .cycle => .degraded (.cyclicReference name ctx.trail)
  | .tooDeep => .degraded (.depthExceeded name ctx.trail ctx.maxDepth)
  | .proceed next =>
    match ctx.schema.model? name with
    | none => .degraded (.danglingReference name ctx.trail)
    | some m => (Compiler.mk options (some next)).modelAt location m

/-- A pointer is followed as a reference to the name that it spells. -/
theorem follow_eq_reference (options : CompileOptions) (ctx : Context) (location : List String)
    (pointer : String) : (Compiler.mk options (some ctx)).follow location pointer =
      reference options ctx location (Pointer.modelName pointer) := by
  have hlayer := Compile.Job.compiled_eq_layer options ⟨some ctx, .pointer pointer⟩
  refine (congrFun hlayer location).trans ?_
  dsimp only [Compile.Job.layer, Compile.Job.pointerLayer, reference]
  cases hdescend : ctx.descend (Pointer.modelName pointer) with
  | cycle => rfl
  | tooDeep => rfl
  | proceed next =>
    dsimp only [Context.lookup]
    rw [Context.schema_of_descend hdescend]
    cases ctx.schema.model? (Pointer.modelName pointer) <;> rfl

end Compiler

namespace ReferenceGraph
open Pointer

/-- A pointer spells the name in its last segment, with or without a file suffix. Every name
without a slash is spelled by some pointer, and no other name is. Compiling and the graph come to
the model of the name that is spelled, or miss it. -/
theorem pointers_name_models :
    (∀ pointer, '/' ∉ (modelName pointer).toList ∧
      ∃ folder segment, pointer = folder ++ segment ∧ IsFolder folder ∧ '/' ∉ segment.toList ∧
        ∀ folder', IsFolder folder' → modelName (folder' ++ segment) = modelName pointer) ∧
    (∀ folder name, IsFolder folder → '/' ∉ name.toList →
      modelName (folder ++ name ++ ".schema.json") = name ∧
      (modelName (folder ++ name) = name ↔ ¬∃ stem, name = stem ++ ".json") ∧
      (modelName (folder ++ name ++ ".json") = name ↔ ¬∃ stem, name = stem ++ ".schema")) ∧
    (∀ name, (∃ pointer, modelName pointer = name) ↔ '/' ∉ name.toList) ∧
    (∀ options ctx location pointer, (Compiler.mk options (some ctx)).follow location pointer =
      Compiler.reference options ctx location (modelName pointer)) ∧
    ∀ (s : Schema) (source target : String),
      (∀ m, s.model? source = some m →
        ((ofSchema s).Refers source target ↔ (∃ next, s.model? target = some next) ∧
          ∃ o ∈ Occurrence.inModel [] m, modelName o.pointer = target)) ∧
      ((∃ e ∈ (ofSchema s).dangling, e.fromModel = source ∧ e.target = target) ↔
        s.model? target = none ∧ ∃ m, (source, m) ∈ s.models ∧
          ∃ o ∈ Occurrence.inModel [] m, modelName o.pointer = target) := by
  refine ⟨fun pointer => ⟨slash_not_mem_modelName pointer, ?_⟩,
    fun folder name hfolder hname => ⟨?_, modelName_plain_iff hfolder hname, ?_⟩,
    fun name => ⟨?_, fun hname => ?_⟩, Compiler.follow_eq_reference,
    fun s source target => ⟨fun m hm => ?_, ?_⟩⟩
  · obtain ⟨folder, segment, rfl, hfolder, hsegment⟩ := exists_folder pointer
    refine ⟨folder, segment, rfl, hfolder, hsegment, fun folder' hfolder' => ?_⟩
    rw [← String.toList_inj, toList_modelName_append hfolder' hsegment,
      toList_modelName_append hfolder hsegment]
  · rw [String.append_assoc]
    exact modelName_schema_json hfolder hname
  · rw [String.append_assoc]
    exact modelName_json_iff hfolder hname
  · intro h
    obtain ⟨pointer, rfl⟩ := h
    exact slash_not_mem_modelName pointer
  · exact ⟨"" ++ (name ++ ".schema.json"), modelName_schema_json (.inl rfl) hname⟩
  · rw [Refers, mem_referencesFrom_iff hm, Model.targets, List.mem_map, and_comm]
    rfl
  · constructor
    · intro h
      obtain ⟨e, he, rfl, rfl⟩ := h
      obtain ⟨source, m, o, hm, ho, hnone, rfl⟩ := mem_dangling_iff.mp he
      exact ⟨hnone, m, hm, o, ho, rfl⟩
    · intro h
      obtain ⟨hnone, m, hm, o, ho, rfl⟩ := h
      exact ⟨_, mem_dangling_iff.mpr ⟨source, m, o, hm, ho, hnone, rfl⟩, rfl, rfl⟩

/-- Orders have a user, an order line that is described nowhere, and the order before. -/
def orderModel : Model where
  kind := .object
  properties :=
    [("before", .toModel "orders/Order.schema.json"), ("line", .toModel "Line.json"),
      ("user", .toModel "#/components/schemas/User")]

def orderSchema : Schema where
  models := [("Order", orderModel), ("User", { kind := .object })]

theorem pointers_name_models_order :
    IsFolder "orders/" ∧ '/' ∉ "Order".toList ∧ modelName "orders/Order.schema.json" = "Order" ∧
    modelName "orders/Order" = "Order" ∧ modelName "orders/Order.schema.json" ≠ "Order.schema" ∧
    (∃ pointer, modelName pointer = "Order.json") ∧ ¬(∃ pointer, modelName pointer = "a/b") ∧
    orderSchema.model? "Order" = some orderModel ∧
    (ofSchema orderSchema).Refers "Order" "Order" ∧ (ofSchema orderSchema).Refers "Order" "User" ∧
    ∃ e ∈ (ofSchema orderSchema).dangling, e.fromModel = "Order" ∧ e.target = "Line" := by
  obtain ⟨-, hspelled, hnamed, -, hgraph⟩ := pointers_name_models
  have hfolder : IsFolder "orders/" := .inr ⟨"orders", rfl⟩
  have hslash : '/' ∉ "Order".toList := by decide
  have hslash' : '/' ∉ "Order.schema".toList := by decide
  obtain ⟨hlong, hplain, -⟩ := hspelled "orders/" "Order" hfolder hslash
  obtain ⟨-, -, hshort⟩ := hspelled "orders/" "Order.schema" hfolder hslash'
  refine ⟨hfolder, hslash, hlong, hplain.mpr ?_, ?_, (hnamed "Order.json").mpr (by decide), ?_, rfl,
    ((hgraph orderSchema "Order" "Order").1 orderModel rfl).mpr ?_,
    ((hgraph orderSchema "Order" "User").1 orderModel rfl).mpr ?_,
    (hgraph orderSchema "Order" "Line").2.mpr ?_⟩
  · rw [← suffix_toList_iff]
    decide
  · exact fun hsame => hshort.mp hsame ⟨"Order", rfl⟩
  · rw [hnamed]
    decide
  · exact ⟨⟨orderModel, rfl⟩, ⟨[.field "before"], "orders/Order.schema.json"⟩, by decide +kernel,
      by decide +kernel⟩
  · exact ⟨⟨_, rfl⟩, ⟨[.field "user"], "#/components/schemas/User"⟩, by decide +kernel,
      by decide +kernel⟩
  · exact ⟨rfl, orderModel, List.mem_cons_self, ⟨[.field "line"], "Line.json"⟩, by decide +kernel,
      by decide +kernel⟩

end ReferenceGraph
end RecordShape
