import Mathlib.Logic.Relation
import RecordShape.Proofs.Compile.Equations
import RecordShape.Proofs.Compile.Resolution

/-!
# Compiling comes to an end

Fields, models, items and pointers are compiled by handing on their parts, and a pointer hands on
the model it leads to, which need not be a part of anything. A context makes up for that: whatever
the bound, the models on a path are different, so the models that are still to come get fewer with
every pointer, and between two pointers descriptions get smaller.
-/

namespace RecordShape
open Relation

namespace Context

/-- What holds of the contexts below a root. -/
structure Below (s : Schema) (maxDepth : Nat) (ctx : Context) : Prop where
  schema_eq : ctx.schema = s
  maxDepth_eq : ctx.maxDepth = maxDepth
  depth_eq : ctx.depth = ctx.visited.length
  depth_le : ctx.depth ≤ maxDepth
  nodup : ctx.visited.Nodup

/-- One reference leads from the first context to the second, whatever name it asks for. -/
def Descends (ctx next : Context) : Prop := ∃ name, ctx.descend name = .proceed next

variable {s : Schema} {maxDepth : Nat} {ctx next : Context} {name : String}

theorem descend_eq_cycle_iff : ctx.descend name = .cycle ↔ name ∈ ctx.visited := by
  simp only [descend, isVisited, List.contains_iff_mem]
  split_ifs with hvisited <;> simp [hvisited]

theorem descend_eq_tooDeep_iff :
    ctx.descend name = .tooDeep ↔ name ∉ ctx.visited ∧ ctx.maxDepth ≤ ctx.depth := by
  simp only [descend, isVisited, List.contains_iff_mem]
  split_ifs with hvisited hdepth
  · simp [hvisited]
  · simp [hvisited, hdepth]
  · simp [hdepth]

theorem descend_eq_proceed_iff :
    ctx.descend name = .proceed next ↔ name ∉ ctx.visited ∧ ctx.depth < ctx.maxDepth ∧
      next = { ctx with visited := ctx.visited ++ [name], depth := ctx.depth + 1 } := by
  simp only [descend, isVisited, List.contains_iff_mem, ← Nat.not_le]
  split_ifs with hvisited hdepth
  · simp [hvisited]
  · simp [hdepth]
  · simp [hvisited, hdepth, eq_comm]

namespace Below

theorem root : (Context.root s maxDepth).Below s maxDepth :=
  ⟨rfl, rfl, rfl, Nat.zero_le _, List.nodup_nil⟩

theorem descend (h : ctx.Below s maxDepth) (hnext : ctx.descend name = .proceed next) :
    next.Below s maxDepth := by
  obtain ⟨hnew, hroom, rfl⟩ := descend_eq_proceed_iff.mp hnext
  refine ⟨h.schema_eq, h.maxDepth_eq, ?_, h.maxDepth_eq ▸ hroom, ?_⟩
  · simp only [h.depth_eq, List.length_append, List.length_singleton]
  · rw [← List.concat_eq_append]
    exact h.nodup.concat hnew

theorem of_reached (h : ReflTransGen Descends (.root s maxDepth) ctx) :
    ctx.Below s maxDepth := by
  induction h with
  | refl => exact .root
  | tail _ hstep ih =>
    obtain ⟨name, hnext⟩ := hstep
    exact ih.descend hnext

theorem eq_along (h : ctx.Below s maxDepth) : ctx = .along s maxDepth ctx.visited := by
  obtain ⟨schema, bound, visited, depth⟩ := ctx
  obtain rfl : schema = s := h.schema_eq
  obtain rfl : bound = maxDepth := h.maxDepth_eq
  obtain rfl : depth = visited.length := h.depth_eq
  rfl

end Below
end Context

namespace Compile

/-- What is to be compiled. -/
inductive Task where
  | field (f : Field)
  | model (m : Model)
  | items (items : Option Items)
  | pointer (pointer : String)

/-- A task with the context for its references, if there is one. -/
structure Job where
  context : Option Context
  task : Task

namespace Job

/-- Compiling the first job asks for the second to be compiled. -/
inductive HandsOn : Job → Job → Prop where
  | property {ctx : Option Context} {m : Model} {name : String} {f : Field}
      (hkind : m.kind = .object) (hf : (name, f) ∈ m.properties) :
      HandsOn ⟨ctx, .model m⟩ ⟨ctx, .field f⟩
  | elements {ctx : Option Context} {m : Model} (hkind : m.kind = .array) :
      HandsOn ⟨ctx, .model m⟩ ⟨ctx, .items m.items⟩
  | fieldElements {ctx : Option Context} {f : Field} (hkind : f.kind = .array) :
      HandsOn ⟨ctx, .field f⟩ ⟨ctx, .items f.items⟩
  | fieldPointer {ctx : Option Context} {f : Field} {pointer : String}
      (hobject : f.CountsAsObject) (hpointer : f.pointer = some pointer) :
      HandsOn ⟨ctx, .field f⟩ ⟨ctx, .pointer pointer⟩
  | nested {ctx : Option Context} {f : Field} {inner : Items} (hobject : f.CountsAsObject)
      (hpointer : f.pointer = none) (hitems : f.items = some inner) :
      HandsOn ⟨ctx, .field f⟩ ⟨ctx, .items (some inner)⟩
  | itemsPointer {ctx : Option Context} {pointer : String} :
      HandsOn ⟨ctx, .items (some (.reference pointer))⟩ ⟨ctx, .pointer pointer⟩
  | inline {ctx : Option Context} {m : Model} :
      HandsOn ⟨ctx, .items (some (.inline m))⟩ ⟨ctx, .model m⟩
  | target {ctx next : Context} {pointer : String} {m : Model}
      (hdescend : ctx.descend (Pointer.modelName pointer) = .proceed next)
      (hm : next.lookup (Pointer.modelName pointer) = some m) :
      HandsOn ⟨some ctx, .pointer pointer⟩ ⟨some next, .model m⟩

/-- What the compiler makes of a job at a location. -/
def compiled (options : CompileOptions) (job : Job) (location : List String) : Compiled Shape :=
  let c : Compiler := { options, context := job.context }
  match job.task with
  | .field f => Compile.field options c.follow location f
  | .model m => Compile.model options c.follow location m
  | .items i => Compile.items options c.follow location i
  | .pointer pointer => c.follow location pointer

end Job

/-! A layer of the recursion says what becomes of a task, given what becomes of the tasks that it
hands on. There is no fuel in it. -/

section Layers

variable (options : CompileOptions) (rest : Task → List String → Compiled Shape)
  (location : List String)

def fieldsLayer (m : Model) : Compiled (List (String × ShapeField)) where
  value := m.properties.map fun p =>
    (p.1, ⟨(rest (.field p.2) (location ++ [p.1])).value, !m.required.contains p.1⟩)
  diagnostics := m.properties.flatMap fun p =>
    (rest (.field p.2) (location ++ [p.1])).diagnostics

def modelLayer (m : Model) : Compiled Shape :=
  if m.kind = .object then do
    let fields ← fieldsLayer rest location m
    return nullable m.constraints (.object ⟨fields, options.unknownKeys⟩)
  else if m.kind = .array then do
    let items ← rest (.items m.items) location
    return nullable m.constraints (.array items)
  else do
    let shape ← plain location m.constraints m.kind
    return nullable m.constraints shape

def objectFieldLayer (f : Field) : Compiled Shape :=
  match f.pointer, f.items with
  | some pointer, _ => rest (.pointer pointer) location
  | none, some inner => rest (.items inner) location
  | none, none => pure .anyObject

instance (f : Field) : Decidable f.CountsAsObject := inferInstanceAs (Decidable (_ ∨ _))

def fieldLayer (f : Field) : Compiled Shape :=
  if f.kind = .array then do
    let items ← rest (.items f.items) location
    return nullable f.constraints (.array items)
  else if f.CountsAsObject then do
    let shape ← objectFieldLayer rest location f
    return nullable f.constraints shape
  else do
    let shape ← plain location f.constraints f.kind
    return nullable f.constraints shape

def itemsLayer : Option Items → Compiled Shape
  | none => pure (.array .anyObject)
  | some (.reference pointer) => rest (.pointer pointer) location
  | some (.inline m) => rest (.model m) location

end Layers

namespace Job

/-- A pointer leads to a model that is compiled in a context of its own. -/
def pointerLayer (rest : Job → List String → Compiled Shape) (location : List String)
    (pointer : String) : Option Context → Compiled Shape
  | none => .degraded (.missingRegistry (Pointer.modelName pointer))
  | some ctx =>
    let name := Pointer.modelName pointer
    match ctx.descend name with
    | .cycle => .degraded (.cyclicReference name ctx.trail)
    | .tooDeep => .degraded (.depthExceeded name ctx.trail ctx.maxDepth)
    | .proceed next =>
      match next.lookup name with
      | none => .degraded (.danglingReference name ctx.trail)
      | some m => rest ⟨some next, .model m⟩ location

/-- What becomes of a job if `rest` says what becomes of the jobs that it hands on. -/
def layer (options : CompileOptions) (rest : Job → List String → Compiled Shape) (job : Job)
    (location : List String) : Compiled Shape :=
  let within := fun task => rest ⟨job.context, task⟩
  match job.task with
  | .field f => fieldLayer within location f
  | .model m => modelLayer options within location m
  | .items i => itemsLayer within location i
  | .pointer pointer => pointerLayer rest location pointer job.context

/-- Compiling the job comes to an end: no sequence of jobs, each handed on by the one before, goes
on forever. -/
def Ends (job : Job) : Prop := Acc (fun next job => HandsOn job next) job

/-- The context of the job, if there is one, is at the end of a path of models. -/
def OnPath (s : Schema) (maxDepth : Nat) (job : Job) : Prop :=
  ∀ ctx ∈ job.context, ctx.Below s maxDepth ∧ s.IsPath ctx.visited

variable {options : CompileOptions} {s : Schema} {maxDepth : Nat} {job next : Job}
  {location : List String}

theorem OnPath.handsOn (h : job.OnPath s maxDepth) (hnext : job.HandsOn next) :
    next.OnPath s maxDepth := by
  cases hnext with
  | @target ctx next _ m hdescend hm =>
    intro ctx' hctx'
    obtain rfl : next = ctx' := Option.some.inj hctx'
    obtain ⟨hbelow, hpath⟩ := h ctx rfl
    refine ⟨hbelow.descend hdescend, ?_⟩
    obtain ⟨hnew, -, rfl⟩ := Context.descend_eq_proceed_iff.mp hdescend
    refine hpath.append hnew (?_ : s.model? _ = some m)
    rw [← hbelow.schema_eq]
    exact hm
  | _ => exact h

theorem OnPath.of_reached (h : job.OnPath s maxDepth) (hreached : ReflTransGen HandsOn job next) :
    next.OnPath s maxDepth := by
  induction hreached with
  | refl => exact h
  | tail _ hstep ih => exact ih.handsOn hstep

theorem ends_of_pointers {ctx : Option Context}
    (hpointers : ∀ pointer, Ends ⟨ctx, .pointer pointer⟩) : ∀ task, Ends ⟨ctx, task⟩ := by
  have hcases : NestingCases (fun m => Ends ⟨ctx, .model m⟩) (fun f => Ends ⟨ctx, .field f⟩)
      (fun i => Ends ⟨ctx, .items i⟩) := {
    model m hproperties hitems := by
      refine ⟨_, fun next hnext => ?_⟩
      cases hnext with
      | property hkind hf => exact hproperties _ _ hf
      | elements hkind => exact hitems
    field f hitems := by
      refine ⟨_, fun next hnext => ?_⟩
      cases hnext with
      | fieldElements hkind => exact hitems
      | fieldPointer hobject hpointer => exact hpointers _
      | nested hobject hpointer hinner => exact hinner ▸ hitems
    noItems := ⟨_, fun next hnext => by cases hnext⟩
    reference pointer := by
      refine ⟨_, fun next hnext => ?_⟩
      cases hnext with
      | itemsPointer => exact hpointers _
    inline m hm := by
      refine ⟨_, fun next hnext => ?_⟩
      cases hnext with
      | inline => exact hm }
  intro task
  cases task with
  | field f => exact hcases.all_field f
  | model m => exact hcases.all_model m
  | items i => exact hcases.all_items i
  | pointer pointer => exact hpointers pointer

theorem ends_without_context (task : Task) : Ends ⟨none, task⟩ :=
  ends_of_pointers (fun pointer => ⟨_, fun next hnext => by cases hnext⟩) task

/-- At the end of a path all compiling comes to an end, by induction over the ways on from it. -/
theorem ends_along {path : List String} (hpath : s.IsPath path) (task : Task) :
    Ends ⟨some (.along s maxDepth path), task⟩ := by
  induction path, hpath using Schema.IsPath.induction_on generalizing task with
  | step path hpath ih =>
    refine ends_of_pointers (fun pointer => ⟨_, fun next hnext => ?_⟩) task
    cases hnext with
    | @target _ _ _ m hdescend hm =>
      obtain ⟨hnew, -, rfl⟩ := Context.descend_eq_proceed_iff.mp hdescend
      have hends := ih _ m hnew hm (.model m)
      rwa [Context.along, List.length_append] at hends

theorem OnPath.ends (h : job.OnPath s maxDepth) : job.Ends := by
  obtain ⟨ctx, task⟩ := job
  cases ctx with
  | none => exact ends_without_context task
  | some ctx =>
    obtain ⟨hbelow, hpath⟩ := h ctx rfl
    rw [hbelow.eq_along]
    exact ends_along hpath task

section
variable {rest₁ rest₂ : Job → List String → Compiled Shape} {ctx : Option Context}

private theorem fieldLayer_congr {f : Field}
    (h : ∀ next, HandsOn ⟨ctx, .field f⟩ next → rest₁ next = rest₂ next) :
    fieldLayer (fun task => rest₁ ⟨ctx, task⟩) location f =
      fieldLayer (fun task => rest₂ ⟨ctx, task⟩) location f := by
  dsimp only [fieldLayer, objectFieldLayer]
  split_ifs with harray hobject
  · rw [h _ (.fieldElements harray)]
  · cases hpointer : f.pointer with
    | some pointer =>
      dsimp only
      rw [h _ (.fieldPointer hobject hpointer)]
    | none =>
      cases hitems : f.items with
      | some inner =>
        dsimp only
        rw [h _ (.nested hobject hpointer hitems)]
      | none => rfl
  · rfl

private theorem modelLayer_congr {m : Model}
    (h : ∀ next, HandsOn ⟨ctx, .model m⟩ next → rest₁ next = rest₂ next) :
    modelLayer options (fun task => rest₁ ⟨ctx, task⟩) location m =
      modelLayer options (fun task => rest₂ ⟨ctx, task⟩) location m := by
  dsimp only [modelLayer]
  split_ifs with hobject harray
  · have hfields : fieldsLayer (fun task => rest₁ ⟨ctx, task⟩) location m =
        fieldsLayer (fun task => rest₂ ⟨ctx, task⟩) location m := by
      unfold fieldsLayer
      congr 1
      · exact List.map_congr_left fun p hp => by simp only [h _ (.property hobject hp)]
      · exact List.flatMap_congr fun p hp => by simp only [h _ (.property hobject hp)]
    rw [hfields]
  · rw [h _ (.elements harray)]
  · rfl

private theorem pointerLayer_congr {pointer : String}
    (h : ∀ next, HandsOn ⟨ctx, .pointer pointer⟩ next → rest₁ next = rest₂ next) :
    pointerLayer rest₁ location pointer ctx = pointerLayer rest₂ location pointer ctx := by
  cases ctx with
  | none => rfl
  | some ctx =>
    dsimp only [pointerLayer]
    cases hdescend : ctx.descend (Pointer.modelName pointer) with
    | cycle => rfl
    | tooDeep => rfl
    | proceed next =>
      dsimp only
      cases hm : next.lookup (Pointer.modelName pointer) with
      | none => rfl
      | some m => exact congrFun (h _ (.target hdescend hm)) location

theorem layer_congr (h : ∀ next, job.HandsOn next → rest₁ next = rest₂ next) :
    job.layer options rest₁ = job.layer options rest₂ := by
  funext location
  obtain ⟨ctx, f | m | i | pointer⟩ := job
  · exact fieldLayer_congr h
  · exact modelLayer_congr h
  · rcases i with _ | pointer | m
    · rfl
    · exact congrFun (h _ .itemsPointer) location
    · exact congrFun (h _ .inline) location
  · exact pointerLayer_congr h

end

private theorem resolve_eq_layer {path : List String} (hpath : s.IsPath path)
    (location : List String) (pointer : String) :
    resolve options s.models.length (some (.along s maxDepth path)) location pointer =
      pointerLayer (compiled options) location pointer (some (.along s maxDepth path)) := by
  rw [resolve_along hpath (Nat.le_add_left _ _)]
  dsimp only [pointerLayer]
  rw [Context.descend_along]
  split_ifs with hcycle hdepth
  · rfl
  · rfl
  dsimp only
  have hlookup : (Context.along s maxDepth (path ++ [Pointer.modelName pointer])).lookup
      (Pointer.modelName pointer) = s.model? (Pointer.modelName pointer) := rfl
  rw [hlookup]
  cases hm : s.model? (Pointer.modelName pointer) with
  | none => rfl
  | some m =>
    -- What is left of the fuel does as much as the fuel of the next context.
    have hleft : s.models.length ≤
        (path ++ [Pointer.modelName pointer]).length + (s.models.length - 1) := by
      rw [List.length_append, List.length_singleton]
      omega
    dsimp only
    rw [resolve_fuel_eq (hpath.append hcycle hm) hleft (Nat.le_add_left _ _)]
    rfl

section
variable (options : CompileOptions) (ctx : Option Context) (location : List String)

theorem field_eq_layer (f : Field) : compiled options ⟨ctx, .field f⟩ location =
    fieldLayer (fun task => compiled options ⟨ctx, task⟩) location f := by
  dsimp only [compiled, fieldLayer]
  split_ifs with harray hobject
  · exact field_array harray location
  · rw [field_object hobject]
    dsimp only [objectFieldLayer]
    cases hpointer : f.pointer with
    | some pointer =>
      rw [objectField_pointer]
      rfl
    | none =>
      cases hitems : f.items with
      | some inner =>
        rw [objectField_items]
        rfl
      | none => rfl
  · exact field_plain hobject harray location

theorem model_eq_layer (m : Model) : compiled options ⟨ctx, .model m⟩ location =
    modelLayer options (fun task => compiled options ⟨ctx, task⟩) location m := by
  dsimp only [compiled, modelLayer]
  split_ifs with hobject harray
  · rw [model_object hobject]
    refine congrArg₂ Compiled.mk ?_ ?_
    · simp only [Compiled.value_pure, value_fields]
      rfl
    · simp only [Compiled.diagnostics_pure, diagnostics_fields]
      rfl
  · exact model_array harray location
  · exact model_plain hobject harray location

end

/-- On a path the compiler does what the recursion without fuel does. -/
theorem OnPath.compiled_eq_layer (h : job.OnPath s maxDepth) :
    job.compiled options = job.layer options (compiled options) := by
  funext location
  obtain ⟨ctx, f | m | i | pointer⟩ := job
  · exact field_eq_layer options ctx location f
  · exact model_eq_layer options ctx location m
  · rcases i with _ | pointer | m <;> rfl
  · cases ctx with
    | none => rfl
    | some ctx =>
      obtain ⟨hbelow, hpath⟩ := h ctx rfl
      dsimp only [layer, compiled]
      rw [hbelow.eq_along]
      exact resolve_eq_layer hpath location pointer

/-- The recursion has one answer to a job that ends, if it has one to whatever the job leads to. -/
theorem Ends.unique {F G : Job → List String → Compiled Shape} (hends : job.Ends)
    (hF : ∀ next, ReflTransGen HandsOn job next → F next = next.layer options F)
    (hG : ∀ next, ReflTransGen HandsOn job next → G next = next.layer options G) :
    F job = G job := by
  induction hends with
  | intro job _ ih =>
    rw [hF job .refl, hG job .refl]
    exact layer_congr fun next hnext => ih next hnext
      (fun later hlater => hF later (.head hnext hlater))
      (fun later hlater => hG later (.head hnext hlater))

theorem OnPath.start {start : Option Context} (h : ∀ ctx ∈ start, ctx = .root s maxDepth)
    (task : Task) : OnPath s maxDepth ⟨start, task⟩ := by
  intro ctx hctx
  obtain rfl := h ctx hctx
  exact ⟨.root, .nil⟩

end Job

open Job

/-- Compiling comes to an end whatever is compiled, in cyclic schemas and with any bound. The
contexts on the way are paths of different models, no longer than the bound or the number of
models, and the compiler is the one solution of the recursion that has no fuel. Contexts stay what
they are along references with any names. -/
theorem compiling_ends (s : Schema) (maxDepth : Nat) :
    (∀ start : Option Context, (∀ ctx ∈ start, ctx = .root s maxDepth) → ∀ task,
      Ends ⟨start, task⟩ ∧
      (∀ job, ReflTransGen HandsOn ⟨start, task⟩ job → ∀ ctx ∈ job.context,
        ctx.Below s maxDepth ∧ s.IsPath ctx.visited ∧ ctx.depth ≤ min maxDepth s.models.length) ∧
      ∀ (options : CompileOptions) (F : Job → List String → Compiled Shape),
        (∀ job, ReflTransGen HandsOn ⟨start, task⟩ job → F job = job.layer options F) ↔
          ∀ job, ReflTransGen HandsOn ⟨start, task⟩ job → F job = job.compiled options) ∧
    ∀ ctx, ReflTransGen Context.Descends (.root s maxDepth) ctx → ctx.Below s maxDepth ∧
      ∀ name, (ctx.descend name = .cycle ↔ name ∈ ctx.visited) ∧
        (ctx.descend name = .tooDeep ↔ name ∉ ctx.visited ∧ ctx.depth = maxDepth) ∧
        ∀ next, ctx.descend name = .proceed next ↔ name ∉ ctx.visited ∧ ctx.depth ≠ maxDepth ∧
          next = { ctx with visited := ctx.visited ++ [name], depth := ctx.depth + 1 } := by
  refine ⟨fun start hstart task => ?_, fun ctx hctx => ?_⟩
  · have honPath : OnPath s maxDepth ⟨start, task⟩ := .start hstart task
    refine ⟨honPath.ends, fun job hjob ctx hctx => ?_, fun options F => ⟨?_, ?_⟩⟩
    · obtain ⟨hbelow, hpath⟩ := honPath.of_reached hjob ctx hctx
      have hlen := hpath.length_le
      rw [← hbelow.depth_eq] at hlen
      exact ⟨hbelow, hpath, Nat.le_min.mpr ⟨hbelow.depth_le, hlen⟩⟩
    · intro hF job hjob
      refine (honPath.of_reached hjob).ends.unique (fun next hnext => hF next (hjob.trans hnext)) ?_
      exact fun next hnext => (honPath.of_reached (hjob.trans hnext)).compiled_eq_layer
    · intro hF job hjob
      rw [hF job hjob, (honPath.of_reached hjob).compiled_eq_layer]
      exact layer_congr fun next hnext => (hF next (hjob.tail hnext)).symm
  · have hbelow := Context.Below.of_reached hctx
    have hle := hbelow.depth_le
    have htooDeep : maxDepth ≤ ctx.depth ↔ ctx.depth = maxDepth := by omega
    have hroom : ctx.depth < maxDepth ↔ ctx.depth ≠ maxDepth := by omega
    refine ⟨hbelow, fun name => ⟨Context.descend_eq_cycle_iff, ?_, fun next => ?_⟩⟩
    · rw [Context.descend_eq_tooDeep_iff, hbelow.maxDepth_eq, htooDeep]
    · rw [Context.descend_eq_proceed_iff, hbelow.maxDepth_eq, hroom]

/-- Persons belong to a team, and a team lists its members. -/
def personModel : Model where
  kind := .object
  properties := [("team", .toModel "Team")]

def teamModel : Model where
  kind := .object
  properties := [("members", { kind := .array, items := some (.reference "Person") })]

def clubSchema : Schema := { models := [("Person", personModel), ("Team", teamModel)] }

theorem clubSchema_walk : ReflTransGen HandsOn ⟨some (.root clubSchema 10), .model teamModel⟩
    ⟨some (.along clubSchema 10 ["Person", "Team"]), .model teamModel⟩ := by
  refine .head (.property rfl (List.mem_singleton.mpr rfl)) ?_
  refine .head (.fieldElements rfl) ?_
  refine .head .itemsPointer ?_
  refine .head (.target rfl rfl) ?_
  refine .head (.property rfl (List.mem_singleton.mpr rfl)) ?_
  refine .head (.fieldPointer (.inl rfl) rfl) ?_
  exact .single (.target rfl rfl)

/-- Persons and teams refer to each other without end, and the compiler stops all the same. A
context may name models that no schema has. -/
theorem compiling_ends_club :
    Ends ⟨some (.root clubSchema 10), .model teamModel⟩ ∧
    ((Context.along clubSchema 10 ["Person", "Team"]).Below clubSchema 10 ∧
      clubSchema.IsPath ["Person", "Team"] ∧ 2 ≤ min 10 clubSchema.models.length) ∧
    (∀ options, compiled options ⟨some (.root clubSchema 10), .model teamModel⟩ =
      layer options (compiled options) ⟨some (.root clubSchema 10), .model teamModel⟩) ∧
    (Context.along clubSchema 10 ["Nobody"]).descend "Nobody" = .cycle := by
  obtain ⟨hjobs, hcontexts⟩ := compiling_ends clubSchema 10
  obtain ⟨hends, hpaths, hsolutions⟩ := hjobs (some (.root clubSchema 10))
    (fun ctx hctx => (Option.some.inj hctx).symm) (.model teamModel)
  obtain ⟨-, hdescend⟩ := hcontexts (.along clubSchema 10 ["Nobody"]) (.single ⟨"Nobody", rfl⟩)
  refine ⟨hends, hpaths _ clubSchema_walk _ rfl, fun options => ?_, ?_⟩
  · exact (hsolutions options (compiled options)).mpr (fun _ _ => rfl) _ .refl
  · exact (hdescend "Nobody").1.mpr (List.mem_singleton.mpr rfl)

end Compile
end RecordShape
