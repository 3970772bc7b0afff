import RecordShape.Proofs.Compile.Termination

/-!
# Compiling in any context

A context need not be on a path that starts at a root. Whatever it names, every reference that is
followed leaves fewer models of its schema to come, so compiling ends in it, and the compiler does
what the recursion without fuel does. The location of a node shows in diagnostics only.
-/

namespace RecordShape
open Relation

namespace Context
variable {ctx next : Context} {name : String} {m : Model}

/-- How many models of the schema a path from the context can still name. -/
def room (ctx : Context) : Nat :=
  (ctx.schema.models.filter fun entry => !ctx.isVisited entry.1).length

theorem room_le (ctx : Context) : ctx.room ≤ ctx.schema.models.length := List.length_filter_le _ _

theorem room_lt (hdescend : ctx.descend name = .proceed next) (hm : next.lookup name = some m) :
    next.room < ctx.room := by
  obtain ⟨hnew, -, rfl⟩ := descend_eq_proceed_iff.mp hdescend
  have hmem : (name, m) ∈ ctx.schema.models := KeyMap.mem_of_find?_eq_some hm
  have hroom : (name, m) ∈ ctx.schema.models.filter fun entry => !ctx.isVisited entry.1 := by
    simpa [isVisited, hmem] using hnew
  -- What may come next is what may come now, but for the name.
  have hfilter : (ctx.schema.models.filter fun entry => !(ctx.visited ++ [name]).contains entry.1) =
      (ctx.schema.models.filter fun entry => !ctx.isVisited entry.1).filter
        fun entry => entry.1 ≠ name := by
    rw [List.filter_filter]
    apply List.filter_congr
    intro entry _
    simp [isVisited, Bool.and_comm]
  dsimp only [room, isVisited] at hfilter ⊢
  rw [hfilter]
  exact List.length_filter_lt_length_iff_exists.mpr ⟨(name, m), hroom, by simp⟩

end Context

namespace Compile
open Job
variable {options : CompileOptions} {ctx : Context} {fuel : Nat}

private theorem resolve_eq_of_room_le (hfuel : ctx.room ≤ fuel) (location : List String)
    (pointer : String) :
    resolve options fuel (some ctx) location pointer =
      let name := Pointer.modelName pointer
      match ctx.descend name with
      | .cycle => .degraded (.cyclicReference name ctx.trail)
      | .tooDeep => .degraded (.depthExceeded name ctx.trail ctx.maxDepth)
      | .proceed next =>
        match next.lookup name with
        | none => .degraded (.danglingReference name ctx.trail)
        | some m => model options (resolve options (fuel - 1) (some next)) location m := by
  rw [resolve.eq_def]
  dsimp only
  cases hdescend : ctx.descend (Pointer.modelName pointer) with
  | cycle => rfl
  | tooDeep => rfl
  | proceed next =>
    dsimp only
    cases hm : next.lookup (Pointer.modelName pointer) with
    | none => rfl
    | some m =>
      have hlt := Context.room_lt hdescend hm
      obtain ⟨left, rfl⟩ : ∃ left, fuel = left + 1 := ⟨fuel - 1, by omega⟩
      rfl

theorem resolve_fuel_eq_of_room_le {fuel' : Nat} (hfuel : ctx.room ≤ fuel)
    (hfuel' : ctx.room ≤ fuel') :
    resolve options fuel (some ctx) = resolve options fuel' (some ctx) := by
  induction hroom : ctx.room using Nat.strongRecOn generalizing ctx fuel fuel' with
  | ind room ih =>
    funext location pointer
    rw [resolve_eq_of_room_le hfuel, resolve_eq_of_room_le hfuel']
    dsimp only
    cases hdescend : ctx.descend (Pointer.modelName pointer) with
    | cycle => rfl
    | tooDeep => rfl
    | proceed next =>
      dsimp only
      cases hm : next.lookup (Pointer.modelName pointer) with
      | none => rfl
      | some m =>
        have hlt := Context.room_lt hdescend hm
        have hleft : next.room ≤ fuel - 1 := by omega
        have hleft' : next.room ≤ fuel' - 1 := by omega
        dsimp only
        rw [ih next.room (hroom ▸ hlt) hleft hleft' rfl]

namespace Job

/-- In any context the compiler does what the recursion without fuel does. -/
theorem compiled_eq_layer (options : CompileOptions) (job : Job) :
    job.compiled options = job.layer options (compiled options) := by
  funext location
  obtain ⟨ctx, f | m | i | pointer⟩ := job
  · exact field_eq_layer options ctx location f
  · exact model_eq_layer options ctx location m
  · rcases i with _ | pointer | m <;> rfl
  · cases ctx with
    | none => rfl
    | some ctx =>
      refine (resolve_eq_of_room_le ctx.room_le location pointer).trans ?_
      dsimp only [layer, pointerLayer]
      cases hdescend : ctx.descend (Pointer.modelName pointer) with
      | cycle => rfl
      | tooDeep => rfl
      | proceed next =>
        dsimp only
        cases hm : next.lookup (Pointer.modelName pointer) with
        | none => rfl
        | some m =>
          have hlt := Context.room_lt hdescend hm
          have hle := ctx.room_le
          -- What is left of the fuel does as much as the fuel of the next context.
          have hfuel : resolve options (ctx.schema.models.length - 1) (some next) =
              resolve options next.schema.models.length (some next) :=
            resolve_fuel_eq_of_room_le (by omega) next.room_le
          dsimp only
          rw [hfuel]
          rfl

private theorem ends_within (ctx : Context) (task : Task) : Ends ⟨some ctx, task⟩ := by
  induction hroom : ctx.room using Nat.strongRecOn generalizing ctx task with
  | ind room ih =>
    apply ends_of_pointers
    intro pointer
    constructor
    intro next hnext
    cases hnext with
    | target hdescend hm => exact ih _ (hroom ▸ Context.room_lt hdescend hm) _ _ rfl

theorem ends (job : Job) : job.Ends := by
  obtain ⟨ctx, task⟩ := job
  cases ctx with
  | none => exact ends_without_context task
  | some ctx => exact ends_within ctx task

end Job

private theorem value_pattern_eq (source : Option String) (location location' : List String) :
    (pattern location source).value = (pattern location' source).value := by
  unfold pattern
  cases source with
  | none => rfl
  | some source =>
    dsimp only
    cases Pattern.ofSource source <;> rfl

private theorem value_plain_eq (c : Constraints) (kind : TypeTag)
    (location location' : List String) :
    (plain location c kind).value = (plain location' c kind).value := by
  cases kind with
  | string =>
    simp only [plain, value_string]
    rw [value_pattern_eq c.pattern location location']
  | _ => rfl

namespace Job

section
variable {rest : Job → List String → Compiled Shape} {ctx : Option Context}

private theorem value_fieldLayer_eq {f : Field}
    (h : ∀ next, HandsOn ⟨ctx, .field f⟩ next → ∀ location location',
      (rest next location).value = (rest next location').value)
    (location location' : List String) :
    (fieldLayer (fun task => rest ⟨ctx, task⟩) location f).value =
      (fieldLayer (fun task => rest ⟨ctx, task⟩) location' f).value := by
  dsimp only [fieldLayer, objectFieldLayer]
  split_ifs with harray hobject
  · simp only [Compiled.value_bind, Compiled.value_pure]
    rw [h _ (.fieldElements harray) location location']
  · simp only [Compiled.value_bind, Compiled.value_pure]
    cases hpointer : f.pointer with
    | some pointer =>
      dsimp only
      rw [h _ (.fieldPointer hobject hpointer) location location']
    | none =>
      cases hitems : f.items with
      | some inner =>
        dsimp only
        rw [h _ (.nested hobject hpointer hitems) location location']
      | none => rfl
  · simp only [Compiled.value_bind, Compiled.value_pure]
    rw [value_plain_eq f.constraints f.kind location location']

private theorem value_modelLayer_eq {m : Model}
    (h : ∀ next, HandsOn ⟨ctx, .model m⟩ next → ∀ location location',
      (rest next location).value = (rest next location').value)
    (location location' : List String) :
    (modelLayer options (fun task => rest ⟨ctx, task⟩) location m).value =
      (modelLayer options (fun task => rest ⟨ctx, task⟩) location' m).value := by
  dsimp only [modelLayer]
  split_ifs with hobject harray
  · have hfields : (fieldsLayer (fun task => rest ⟨ctx, task⟩) location m).value =
        (fieldsLayer (fun task => rest ⟨ctx, task⟩) location' m).value := by
      apply List.map_congr_left
      intro p hp
      rw [h _ (.property hobject hp) (location ++ [p.1]) (location' ++ [p.1])]
    simp only [Compiled.value_bind, Compiled.value_pure]
    rw [hfields]
  · simp only [Compiled.value_bind, Compiled.value_pure]
    rw [h _ (.elements harray) location location']
  · simp only [Compiled.value_bind, Compiled.value_pure]
    rw [value_plain_eq m.constraints m.kind location location']

private theorem value_pointerLayer_eq {pointer : String}
    (h : ∀ next, HandsOn ⟨ctx, .pointer pointer⟩ next → ∀ location location',
      (rest next location).value = (rest next location').value)
    (location location' : List String) :
    (pointerLayer rest location pointer ctx).value =
      (pointerLayer rest location' pointer ctx).value := by
  cases ctx with
  | none => rfl
  | some ctx =>
    dsimp only [pointerLayer]
    cases hdescend : ctx.descend (Pointer.modelName pointer) with
    | cycle => rfl
    | tooDeep => rfl
    | proceed next =>
      dsimp only
      cases hm : next.lookup (Pointer.modelName pointer) with
      | none => rfl
      | some m => exact h _ (.target hdescend hm) location location'

end

theorem value_compiled_eq (options : CompileOptions) (job : Job)
    (location location' : List String) :
    (job.compiled options location).value = (job.compiled options location').value := by
  induction job.ends generalizing location location' with
  | intro job _ ih =>
    rw [compiled_eq_layer]
    obtain ⟨ctx, f | m | i | pointer⟩ := job
    · exact value_fieldLayer_eq ih location location'
    · exact value_modelLayer_eq ih location location'
    · rcases i with _ | pointer | m
      · rfl
      · exact ih _ .itemsPointer location location'
      · exact ih _ .inline location location'
    · exact value_pointerLayer_eq ih location location'

end Job
end Compile
end RecordShape
