import RecordShape.Compile.Document
import RecordShape.Proofs.Compile.Comparison
import RecordShape.Proofs.Compile.Correctness
import RecordShape.Proofs.Compile.Cuts

/-!
# How deep references are followed

No path of references is longer than the schema has models. A bound that is no smaller changes
nothing about the shapes, and one that is larger changes nothing at all. Below that, a larger bound
makes the documents of a schema of records stricter, since every cut stands for any object.
-/

namespace RecordShape
namespace Compile

variable {s : Schema} {options : CompileOptions}

theorem depth_not_exceeded (hdepth : s.models.length + 1 ≤ options.maxDepth)
    (location : List String) (m : Model) :
    ∀ d ∈ ((Compiler.ofSchema options s).modelAt location m).diagnostics,
      d.code ≠ .depthExceeded := by
  intro d hd hcode
  have href : d.isReference = true := by rw [Diagnostic.isReference, hcode]
  obtain ⟨c, hc, hcut⟩ := exists_cut_of_mem ((mem_modelAt_iff href location m).mp hd) href
  have hlen := hc.isPath.length_le
  cases hcut with
  | cycle => cases hcode
  | depth heq => omega
  | dangling => cases hcode

theorem depth_not_exceeded_rows (hdepth : s.models.length + 1 ≤ options.maxDepth) :
    ∀ d ∈ (rows options s).diagnostics, d.code ≠ .depthExceeded := by
  intro d hd
  obtain ⟨name, m, -, -, hd⟩ := Schema.mem_diagnostics_rows.mp hd
  exact depth_not_exceeded hdepth [name] m d hd

section
variable {keys : UnknownKeys} {d₁ d₂ : Nat} {path : List String}

theorem length_lt_of_next (hpath : s.IsPath path) {name : String} {next : Model}
    (hnew : name ∉ path) (hnext : s.model? name = some next) : path.length < s.models.length := by
  have hlen := (hpath.append hnew hnext).length_le
  rw [List.length_append, List.length_singleton] at hlen
  omega

theorem comparison_shape_eq (keys : UnknownKeys) :
    Comparison keys keys Eq (fun _ _ => True) where
  atom := (comparison_eq keys).atom
  array := (comparison_eq keys).array
  orNull := (comparison_eq keys).orNull
  object := (comparison_eq keys).object
  same _ := trivial
  append _ _ _ _ _ _ := trivial

/-- Bounds that no path exceeds give the same shapes. -/
theorem value_at_path_eq (h₁ : s.models.length ≤ d₁) (h₂ : s.models.length ≤ d₂)
    (hpath : s.IsPath path) (location : List String) (m : Model) :
    (model ⟨d₁, keys⟩ (following ⟨d₁, keys⟩ s path) location m).value =
      (model ⟨d₂, keys⟩ (following ⟨d₂, keys⟩ s path) location m).value := by
  refine (alike_at_path (comparison_shape_eq keys) (fun path hpath location pointer hon => ?_)
    hpath location m).value
  refine ⟨?_, trivial⟩
  rw [following_eq hpath, following_eq hpath]
  by_cases hmem : Pointer.modelName pointer ∈ path
  · rw [if_pos hmem, if_pos hmem]
  rw [if_neg hmem, if_neg hmem]
  cases hnext : s.model? (Pointer.modelName pointer) with
  | none =>
    -- At the bound or not, the target is missing and the shape is the placeholder.
    dsimp only
    split <;> split <;> rfl
  | some next =>
    have hlen := length_lt_of_next hpath hmem hnext
    have hroom₁ : ¬d₁ ≤ path.length := by omega
    have hroom₂ : ¬d₂ ≤ path.length := by omega
    rw [if_neg hroom₁, if_neg hroom₂]
    exact (hon next hmem hnext).value

theorem model_at_path_eq (h₁ : s.models.length < d₁) (h₂ : s.models.length < d₂)
    (hpath : s.IsPath path) (location : List String) (m : Model) :
    model ⟨d₁, keys⟩ (following ⟨d₁, keys⟩ s path) location m =
      model ⟨d₂, keys⟩ (following ⟨d₂, keys⟩ s path) location m := by
  refine Compiled.Alike.eq <| alike_at_path (comparison_eq keys)
    (fun path hpath location pointer hon => ?_) hpath location m
  have hlen := hpath.length_le
  have hroom₁ : ¬d₁ ≤ path.length := by omega
  have hroom₂ : ¬d₂ ≤ path.length := by omega
  rw [following_eq hpath, following_eq hpath]
  by_cases hmem : Pointer.modelName pointer ∈ path
  · rw [if_pos hmem, if_pos hmem]
    exact ⟨rfl, rfl⟩
  rw [if_neg hmem, if_neg hmem, if_neg hroom₁, if_neg hroom₂]
  cases hnext : s.model? (Pointer.modelName pointer) with
  | none => exact ⟨rfl, rfl⟩
  | some next => exact hon next hmem hnext

/-- With bounds no smaller than the number of models, all shapes are the same. With larger ones
the diagnostics are the same as well, and none of them is about the bound. -/
theorem depth_bound_saturates (s : Schema) (keys : UnknownKeys) {d₁ d₂ : Nat}
    (h₁ : s.models.length ≤ d₁) (h₂ : s.models.length ≤ d₂) :
    ((s.fullDocument ⟨d₁, keys⟩).value = (s.fullDocument ⟨d₂, keys⟩).value ∧
      (s.partialDocument ⟨d₁, keys⟩).value = (s.partialDocument ⟨d₂, keys⟩).value ∧
      ∀ m, ((Compiler.ofSchema ⟨d₁, keys⟩ s).model m).value =
        ((Compiler.ofSchema ⟨d₂, keys⟩ s).model m).value) ∧
    (s.models.length + 1 ≤ d₁ → s.models.length + 1 ≤ d₂ →
      ((s.fullDocument ⟨d₁, keys⟩).diagnostics = (s.fullDocument ⟨d₂, keys⟩).diagnostics ∧
        ∀ d ∈ (s.fullDocument ⟨d₁, keys⟩).diagnostics, d.code ≠ .depthExceeded) ∧
      ((s.partialDocument ⟨d₁, keys⟩).diagnostics = (s.partialDocument ⟨d₂, keys⟩).diagnostics ∧
        ∀ d ∈ (s.partialDocument ⟨d₁, keys⟩).diagnostics, d.code ≠ .depthExceeded) ∧
      ∀ m, ((Compiler.ofSchema ⟨d₁, keys⟩ s).model m).diagnostics =
          ((Compiler.ofSchema ⟨d₂, keys⟩ s).model m).diagnostics ∧
        ∀ d ∈ ((Compiler.ofSchema ⟨d₁, keys⟩ s).model m).diagnostics,
          d.code ≠ .depthExceeded) := by
  have hvalue (location : List String) (m : Model) :
      ((Compiler.ofSchema ⟨d₁, keys⟩ s).modelAt location m).value =
        ((Compiler.ofSchema ⟨d₂, keys⟩ s).modelAt location m).value :=
    value_at_path_eq h₁ h₂ .nil location m
  have hrows : (rows ⟨d₁, keys⟩ s).value = (rows ⟨d₂, keys⟩ s).value := by
    simp only [rows, value_rowsOf, hvalue]
  refine ⟨⟨?_, ?_, hvalue []⟩, fun hlt₁ hlt₂ => ?_⟩
  · rw [Schema.value_fullDocument, hrows, Schema.value_fullDocument]
  · rw [Schema.value_partialDocument, hrows, Schema.value_partialDocument]
  have hsame (location : List String) (m : Model) :
      (Compiler.ofSchema ⟨d₁, keys⟩ s).modelAt location m =
        (Compiler.ofSchema ⟨d₂, keys⟩ s).modelAt location m :=
    model_at_path_eq hlt₁ hlt₂ .nil location m
  have hrows' : (rows ⟨d₁, keys⟩ s).diagnostics = (rows ⟨d₂, keys⟩ s).diagnostics := by
    simp only [rows, diagnostics_rowsOf, hsame]
  have hnone : ∀ d ∈ (rows ⟨d₁, keys⟩ s).diagnostics, d.code ≠ .depthExceeded :=
    depth_not_exceeded_rows hlt₁
  rw [Schema.diagnostics_fullDocument, Schema.diagnostics_fullDocument,
    Schema.diagnostics_partialDocument, Schema.diagnostics_partialDocument]
  refine ⟨⟨hrows', hnone⟩, ⟨hrows', hnone⟩, fun m => ⟨?_, depth_not_exceeded hlt₁ [] m⟩⟩
  exact congrArg Compiled.diagnostics (hsame [] m)

/-- Albums come one after another and have an owner, of which the schema says nothing. -/
def albumModel : Model where
  kind := .object
  properties := [("next", .toModel "Album"), ("owner", .toModel "Person")]

def albumSchema : Schema := { models := [("Album", albumModel)] }

/-- At the number of models itself, the missing model lies beyond the bound. -/
theorem depth_bound_saturates_album : albumSchema.models.length = 1 ∧
    (albumSchema.fullDocument ⟨1, .reject⟩).value =
      (albumSchema.fullDocument ⟨10, .reject⟩).value ∧
    (albumSchema.fullDocument ⟨2, .reject⟩).diagnostics =
      (albumSchema.fullDocument ⟨10, .reject⟩).diagnostics ∧
    (albumSchema.fullDocument ⟨1, .reject⟩).diagnostics ≠
      (albumSchema.fullDocument ⟨10, .reject⟩).diagnostics := by
  have hone := depth_bound_saturates albumSchema .reject
    (show albumSchema.models.length ≤ 1 by decide) (show albumSchema.models.length ≤ 10 by decide)
  have htwo := depth_bound_saturates albumSchema .reject
    (show albumSchema.models.length ≤ 2 by decide) (show albumSchema.models.length ≤ 10 by decide)
  exact ⟨rfl, hone.1.1, (htwo.2 (by decide) (by decide)).1.1, by decide +kernel⟩

theorem isObject_of_accepts {follow : List String → String → Compiled Shape} {m : Model}
    (hm : m.IsRecord) {location : List String} {j : Json}
    (h : (model options follow location m).value.accepts j = true) : j.IsObject := by
  obtain ⟨hnull, hkind | ⟨tag, hkind⟩⟩ := hm
  · rw [model_object hkind, Compiled.value_bind, Compiled.value_pure, accepts_nullable,
      object_accepts_iff] at h
    rcases h with ⟨hyes, -⟩ | ⟨members, rfl, -⟩
    · rw [hnull] at hyes
      cases hyes
    · exact ⟨members, rfl⟩
  · rw [model_plain (by simp [hkind]) (by simp [hkind]), hkind, Compiled.value_bind,
      Compiled.value_pure, accepts_nullable] at h
    rcases h with ⟨hyes, -⟩ | h
    · rw [hnull] at hyes
      cases hyes
    · exact (Shape.accepts_anyObject j).mp h

/-- At the end of a path, a larger bound accepts no more than a smaller one. -/
theorem within_at_path_of_le
    (hrecords : ∀ name m, s.model? name = some m → m.IsRecord) (hle : d₁ ≤ d₂)
    (hpath : s.IsPath path) (location : List String) (m : Model) :
    (model ⟨d₂, keys⟩ (following ⟨d₂, keys⟩ s path) location m).value.Within
      (model ⟨d₁, keys⟩ (following ⟨d₁, keys⟩ s path) location m).value := by
  refine (alike_at_path (comparison_within keys) (fun path hpath location pointer hon => ?_)
    hpath location m).value
  refine ⟨fun j h => ?_, trivial⟩
  rw [following_eq hpath] at h ⊢
  by_cases hmem : Pointer.modelName pointer ∈ path
  · rwa [if_pos hmem] at h ⊢
  rw [if_neg hmem] at h ⊢
  by_cases hcut : d₁ ≤ path.length
  · -- The placeholder stands for any object, and the deeper shape accepts nothing else.
    rw [if_pos hcut]
    refine (Shape.accepts_anyObject j).mpr ?_
    split at h
    · exact (Shape.accepts_anyObject j).mp h
    · cases hnext : s.model? (Pointer.modelName pointer) with
      | none =>
        rw [hnext] at h
        exact (Shape.accepts_anyObject j).mp h
      | some next =>
        rw [hnext] at h
        exact isObject_of_accepts (hrecords _ next hnext) h
  · have hroom : ¬d₂ ≤ path.length := by omega
    rw [if_neg hroom] at h
    rw [if_neg hcut]
    cases hnext : s.model? (Pointer.modelName pointer) with
    | none =>
      rw [hnext] at h
      exact h
    | some next =>
      rw [hnext] at h
      exact (hon next hmem hnext).value j h

/-- In a schema of records, what a document accepts with a larger bound it accepts with a smaller
one. -/
theorem accepts_of_deeper (s : Schema) (keys : UnknownKeys)
    (hrecords : ∀ name m, s.model? name = some m → m.IsRecord) {d₁ d₂ : Nat} (hle : d₁ ≤ d₂)
    (j : Json) :
    ((s.fullDocument ⟨d₂, keys⟩).value.accepts j = true →
      (s.fullDocument ⟨d₁, keys⟩).value.accepts j = true) ∧
    ((s.partialDocument ⟨d₂, keys⟩).value.accepts j = true →
      (s.partialDocument ⟨d₁, keys⟩).value.accepts j = true) := by
  have hdocument (isOptional : Bool) :
      (Shape.object (assemble (rows ⟨d₂, keys⟩ s).value isOptional)).Within
        (.object (assemble (rows ⟨d₁, keys⟩ s).value isOptional)) := by
    rw [assemble_rows, assemble_rows]
    refine (comparison_within .allow).object _ Prod.fst (fun _ => isOptional) _ _ fun m _ => ?_
    exact (comparison_within .allow).array _ _ (within_at_path_of_le hrecords hle .nil [m.1] m.2)
  rw [Schema.value_fullDocument, Schema.value_fullDocument, Schema.value_partialDocument,
    Schema.value_partialDocument]
  exact ⟨hdocument false j, hdocument true j⟩

private theorem album_isRecord (name : String) (m : Model)
    (h : albumSchema.model? name = some m) : m.IsRecord := by
  have hmem := KeyMap.mem_of_find?_eq_some h
  rw [albumSchema, List.mem_singleton] at hmem
  cases hmem
  exact ⟨rfl, .inl rfl⟩

/-- The owner of the next album is only looked at when the reference to the album is followed. -/
theorem accepts_of_deeper_album :
    (albumSchema.fullDocument ⟨0, .allow⟩).value.accepts
      (.obj [("Album", .arr [.obj [("next", .obj [("owner", .obj [])])]])]) = true ∧
    (albumSchema.partialDocument ⟨0, .allow⟩).value.accepts (.obj []) = true ∧
    (albumSchema.fullDocument ⟨0, .allow⟩).value.accepts
      (.obj [("Album", .arr [.obj [("next", .obj [("owner", .str "Ann")])]])]) = true ∧
    (albumSchema.fullDocument ⟨1, .allow⟩).value.accepts
      (.obj [("Album", .arr [.obj [("next", .obj [("owner", .str "Ann")])]])]) = false := by
  have h := accepts_of_deeper albumSchema .allow album_isRecord (show 0 ≤ 1 by decide)
  exact ⟨(h _).1 (by decide +kernel), (h _).2 (by decide +kernel), by decide +kernel,
    by decide +kernel⟩

end
end Compile
end RecordShape
