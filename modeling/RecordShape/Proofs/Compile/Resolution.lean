import Mathlib.Data.List.Nodup
import Mathlib.Data.List.Perm.Subperm
import RecordShape.Compile.Compiler

/-!
# Following references along a path

The models on a path are pairwise different models of the schema, so no path is longer than the
schema has models. One equation says what a pointer leads to at the end of a path, and an
induction over the paths that can still be taken goes with it.
-/

namespace RecordShape

/-- The text of a path of models. -/
def pathText (path : List String) : String :=
  if path.isEmpty then "<root>" else " -> ".intercalate path

namespace Context

/-- The context at the end of a path. -/
def along (schema : Schema) (maxDepth : Nat) (path : List String) : Context :=
  { schema, maxDepth, visited := path, depth := path.length }

theorem descend_along (schema : Schema) (maxDepth : Nat) (path : List String) (name : String) :
    (along schema maxDepth path).descend name =
      if name ∈ path then .cycle
      else if maxDepth ≤ path.length then .tooDeep
      else .proceed (along schema maxDepth (path ++ [name])) := by
  simp only [along, descend, isVisited, List.contains_iff_mem, List.length_append,
    List.length_singleton]
  rfl

end Context

namespace Schema

/-- The path consists of pairwise different models of the schema. -/
structure IsPath (s : Schema) (path : List String) : Prop where
  nodup : path.Nodup
  known : ∀ name ∈ path, ∃ m, s.model? name = some m

namespace IsPath
variable {s : Schema} {path : List String}

theorem nil : s.IsPath [] := ⟨List.nodup_nil, by simp⟩

theorem append {name : String} {m : Model} (h : s.IsPath path) (hnew : name ∉ path)
    (hm : s.model? name = some m) : s.IsPath (path ++ [name]) := by
  constructor
  · rw [← List.concat_eq_append]
    exact h.nodup.concat hnew
  · intro other hother
    rcases List.mem_append.mp hother with hother | hother
    · exact h.known other hother
    · exact ⟨m, by rw [List.mem_singleton.mp hother, hm]⟩

theorem length_le (h : s.IsPath path) : path.length ≤ s.models.length := by
  have hsub : path ⊆ s.models.map Prod.fst := by
    intro name hname
    obtain ⟨m, hm⟩ := h.known name hname
    exact List.mem_map.mpr ⟨_, KeyMap.mem_of_find?_eq_some hm, rfl⟩
  have hlen := (h.nodup.subperm hsub).length_le
  rwa [List.length_map] at hlen

/-- Induction over the ways on from a path. -/
@[elab_as_elim]
theorem induction_on {motive : (path : List String) → s.IsPath path → Prop}
    (step : ∀ path hpath, (∀ name m (hnew : name ∉ path) (hm : s.model? name = some m),
      motive (path ++ [name]) (hpath.append hnew hm)) → motive path hpath)
    (path : List String) (h : s.IsPath path) : motive path h := by
  induction hroom : s.models.length - path.length generalizing path with
  | zero =>
    refine step path h fun name m hnew hm => ?_
    have hlen := (h.append hnew hm).length_le
    rw [List.length_append, List.length_singleton] at hlen
    omega
  | succ room ih =>
    refine step path h fun name m hnew hm => ih _ (h.append hnew hm) ?_
    rw [List.length_append, List.length_singleton]
    omega

end IsPath
end Schema

namespace Compile

variable {options : CompileOptions} {s : Schema} {path : List String} {maxDepth fuel : Nat}

/-- A pointer is cut off at a model on the path, at the bound or at a missing model, and leads to
the model it names otherwise. Fuel for the models that are not on the path never runs out. -/
theorem resolve_along (hpath : s.IsPath path) (hfuel : s.models.length ≤ path.length + fuel)
    (location : List String) (pointer : String) :
    resolve options fuel (some (.along s maxDepth path)) location pointer =
      if Pointer.modelName pointer ∈ path then
        .degraded (.cyclicReference (Pointer.modelName pointer) (pathText path))
      else if maxDepth ≤ path.length then
        .degraded (.depthExceeded (Pointer.modelName pointer) (pathText path) maxDepth)
      else
        match s.model? (Pointer.modelName pointer) with
        | none => .degraded (.danglingReference (Pointer.modelName pointer) (pathText path))
        | some m => model options (resolve options (fuel - 1)
            (some (.along s maxDepth (path ++ [Pointer.modelName pointer])))) location m := by
  rw [resolve.eq_def]
  dsimp only
  rw [Context.descend_along]
  by_cases hcycle : Pointer.modelName pointer ∈ path
  · simp only [hcycle, if_true]
    rfl
  by_cases hdepth : maxDepth ≤ path.length
  · simp only [hcycle, hdepth, if_true, if_false]
    rfl
  simp only [hcycle, hdepth, if_false]
  have hlookup : (Context.along s maxDepth (path ++ [Pointer.modelName pointer])).lookup
      (Pointer.modelName pointer) = s.model? (Pointer.modelName pointer) := rfl
  rw [hlookup]
  cases hm : s.model? (Pointer.modelName pointer) with
  | none => rfl
  | some m =>
    -- A further model on the path means that there was fuel for it.
    have hlen := (hpath.append hcycle hm).length_le
    rw [List.length_append, List.length_singleton] at hlen
    obtain ⟨left, rfl⟩ : ∃ left, fuel = left + 1 := ⟨fuel - 1, by omega⟩
    rfl

/-- More fuel than the models that are not on the path need changes nothing. -/
theorem resolve_fuel_eq {fuel' : Nat} (hpath : s.IsPath path)
    (hfuel : s.models.length ≤ path.length + fuel)
    (hfuel' : s.models.length ≤ path.length + fuel') :
    resolve options fuel (some (.along s maxDepth path)) =
      resolve options fuel' (some (.along s maxDepth path)) := by
  induction path, hpath using Schema.IsPath.induction_on generalizing fuel fuel' with
  | step path hpath ih =>
    funext location pointer
    rw [resolve_along hpath hfuel, resolve_along hpath hfuel']
    split_ifs with hcycle hdepth
    · rfl
    · rfl
    cases hm : s.model? (Pointer.modelName pointer) with
    | none => rfl
    | some m =>
      have hleft (left : Nat) (hleft : s.models.length ≤ path.length + left) :
          s.models.length ≤ (path ++ [Pointer.modelName pointer]).length + (left - 1) := by
        rw [List.length_append, List.length_singleton]
        omega
      dsimp only
      rw [ih _ m hcycle hm (hleft fuel hfuel) (hleft fuel' hfuel')]

/-- What pointers lead to at the end of a path. -/
def following (options : CompileOptions) (s : Schema) (path : List String) :
    List String → String → Compiled Shape :=
  resolve options (s.models.length - path.length) (some (.along s options.maxDepth path))

theorem following_eq (hpath : s.IsPath path) (location : List String) (pointer : String) :
    following options s path location pointer =
      if Pointer.modelName pointer ∈ path then
        .degraded (.cyclicReference (Pointer.modelName pointer) (pathText path))
      else if options.maxDepth ≤ path.length then
        .degraded (.depthExceeded (Pointer.modelName pointer) (pathText path) options.maxDepth)
      else
        match s.model? (Pointer.modelName pointer) with
        | none => .degraded (.danglingReference (Pointer.modelName pointer) (pathText path))
        | some m => model options (following options s (path ++ [Pointer.modelName pointer]))
            location m := by
  have hleft : s.models.length - (path ++ [Pointer.modelName pointer]).length =
      s.models.length - path.length - 1 := by
    rw [List.length_append, List.length_singleton]
    omega
  unfold following
  rw [resolve_along hpath (by omega), hleft]

end Compile
end RecordShape
