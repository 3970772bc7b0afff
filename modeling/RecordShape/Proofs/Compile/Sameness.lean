import Mathlib.Data.List.Forall2
import RecordShape.Compile.Document
import RecordShape.Proofs.Compile.Equations
import RecordShape.Proofs.Compile.Resolution
import RecordShape.Proofs.Graph.Report

/-!
# Descriptions that compile to the same shape

Two descriptions are the same to the compiler if they give the same shape wherever their references
lead to the same shapes, and the same to the graph if their references name the same models at the
same sites. What they record may differ, as long as the difference passes on from the parts of a
description to the whole. Descriptions with the same parts are the same.
-/

namespace RecordShape

/-- Relations between what two runs record that pass on from the parts of a run to the whole. -/
structure Recording (D : List Diagnostic → List Diagnostic → Prop) : Prop where
  same : ∀ ds, D ds ds
  append : ∀ {ds ds' es es'}, D ds ds' → D es es' → D (ds ++ es) (ds' ++ es')
  trans : ∀ {ds es fs}, D ds es → D es fs → D ds fs

theorem recording_eq : Recording Eq where
  same _ := rfl
  append h h' := congrArg₂ _ h h'
  trans := Eq.trans

/-- Two runs have the same result and related diagnostics. -/
structure Compiled.Agrees {α : Type} (D : List Diagnostic → List Diagnostic → Prop)
    (x y : Compiled α) : Prop where
  value : x.value = y.value
  diagnostics : D x.diagnostics y.diagnostics

variable {D : List Diagnostic → List Diagnostic → Prop}

namespace Compiled.Agrees
variable {α β : Type} {x y z : Compiled α}

theorem refl (hD : Recording D) (x : Compiled α) : x.Agrees D x := ⟨rfl, hD.same _⟩

theorem trans (hD : Recording D) (h : x.Agrees D y) (h' : y.Agrees D z) : x.Agrees D z :=
  ⟨h.value.trans h'.value, hD.trans h.diagnostics h'.diagnostics⟩

theorem bind (hD : Recording D) {f g : α → Compiled β} (h : x.Agrees D y)
    (hf : ∀ a, (f a).Agrees D (g a)) : (x >>= f).Agrees D (y >>= g) := by
  constructor
  · rw [value_bind, value_bind, h.value]
    exact (hf y.value).value
  · rw [diagnostics_bind, diagnostics_bind, h.value]
    exact hD.append h.diagnostics (hf y.value).diagnostics

theorem map (hD : Recording D) {f g : α → β} (h : x.Agrees D y) (hf : ∀ a, f a = g a) :
    (x >>= fun a => pure (f a)).Agrees D (y >>= fun a => pure (g a)) := by
  refine h.bind hD fun a => ?_
  rw [hf]
  exact refl hD _

theorem eq (h : x.Agrees Eq y) : x = y := by
  obtain ⟨value, diagnostics⟩ := x
  obtain ⟨hvalue, hdiagnostics⟩ := h
  cases hvalue
  cases hdiagnostics
  rfl

end Compiled.Agrees

/-- Entries under the same keys, one by one related. -/
abbrev SameEntries {α : Type} (R : α → α → Prop) (entries entries' : List (String × α)) : Prop :=
  List.Forall₂ (fun e e' => e.1 = e'.1 ∧ R e.2 e'.2) entries entries'

namespace SameEntries
variable {α : Type} {R : α → α → Prop} {entries entries' : List (String × α)}

theorem refl (h : ∀ e ∈ entries, R e.2 e.2) : SameEntries R entries entries :=
  List.forall₂_same.mpr fun e he => ⟨rfl, h e he⟩

theorem replace {before after : List (String × α)} {name : String} {a a' : α}
    (hrefl : ∀ a, R a a) (h : R a a') :
    SameEntries R (before ++ (name, a) :: after) (before ++ (name, a') :: after) := by
  refine List.rel_append (refl fun e _ => hrefl e.2) (.cons ⟨rfl, h⟩ ?_)
  exact refl fun e _ => hrefl e.2

theorem find? (h : SameEntries R entries entries') (key : String) :
    Option.Rel R (KeyMap.find? key entries) (KeyMap.find? key entries') := by
  induction h with
  | nil => exact .none
  | cons hentry hrest ih =>
    obtain ⟨hkey, hvalue⟩ := hentry
    simp only [KeyMap.find?, ← hkey]
    split
    · exact .some hvalue
    · exact ih

theorem isEmpty (h : SameEntries R entries entries') : entries.isEmpty = entries'.isEmpty := by
  cases h <;> rfl

theorem flatMap {β : Type} (h : SameEntries R entries entries') {f : String × α → List β}
    (hf : ∀ key a a', R a a' → f (key, a) = f (key, a')) :
    entries.flatMap f = entries'.flatMap f := by
  induction h with
  | nil => rfl
  | @cons e e' rest rest' hentry hrest ih =>
    obtain ⟨key, a⟩ := e
    obtain ⟨key', a'⟩ := e'
    obtain ⟨hkey, hvalue⟩ := hentry
    cases hkey
    rw [List.flatMap_cons, List.flatMap_cons, hf key a a' hvalue, ih]

theorem map {β : Type} (h : SameEntries R entries entries') {f : String × α → β}
    (hf : ∀ key a a', R a a' → f (key, a) = f (key, a')) : entries.map f = entries'.map f := by
  rw [List.map_eq_flatMap, List.map_eq_flatMap]
  exact h.flatMap fun key a a' ha => by rw [hf key a a' ha]

theorem keys_filter (h : SameEntries R entries entries') (p : α → Bool)
    (hp : ∀ a a', R a a' → p a = p a') :
    (entries.filter fun e => p e.2).map Prod.fst =
      (entries'.filter fun e => p e.2).map Prod.fst := by
  induction h with
  | nil => rfl
  | @cons e e' rest rest' hentry hrest ih =>
    obtain ⟨hkey, hvalue⟩ := hentry
    rw [List.filter_cons, List.filter_cons, hp _ _ hvalue]
    split
    · rw [List.map_cons, List.map_cons, hkey, ih]
    · exact ih

end SameEntries

/-- Pointers to the same model are followed to the same shape. -/
def FollowsAlike (D : List Diagnostic → List Diagnostic → Prop)
    (follow follow' : List String → String → Compiled Shape) : Prop :=
  ∀ location pointer pointer', Pointer.modelName pointer = Pointer.modelName pointer' →
    (follow location pointer).Agrees D (follow' location pointer')

/-- The constraints give the same shapes. -/
structure Constraints.Same (D : List Diagnostic → List Diagnostic → Prop) (c c' : Constraints) :
    Prop where
  nullable : Compile.nullable c = Compile.nullable c'
  number : ∀ integer, Compile.number integer c = Compile.number integer c'
  string : ∀ location, (Compile.string location c).Agrees D (Compile.string location c')

/-- The models give the same shape and hold the same references. -/
structure Model.Same (D : List Diagnostic → List Diagnostic → Prop) (m m' : Model) : Prop where
  isFixture : m.isFixture = m'.isFixture
  compiles : ∀ (options : CompileOptions) {follow follow'}, FollowsAlike D follow follow' →
    ∀ location, (Compile.model options follow location m).Agrees D
      (Compile.model options follow' location m')
  refers : ∀ site, (Occurrence.inModel site m).map Occurrence.mark =
    (Occurrence.inModel site m').map Occurrence.mark

/-- The fields give the same shape and hold the same references. -/
structure Field.Same (D : List Diagnostic → List Diagnostic → Prop) (f f' : Field) : Prop where
  compiles : ∀ (options : CompileOptions) {follow follow'}, FollowsAlike D follow follow' →
    ∀ location, (Compile.field options follow location f).Agrees D
      (Compile.field options follow' location f')
  refers : ∀ site, (Occurrence.inField site f).map Occurrence.mark =
    (Occurrence.inField site f').map Occurrence.mark

/-- The items give the same shape and hold the same references. -/
structure Items.Same (D : List Diagnostic → List Diagnostic → Prop) (i i' : Option Items) :
    Prop where
  isSome : i.isSome = i'.isSome
  compiles : ∀ (options : CompileOptions) {follow follow'}, FollowsAlike D follow follow' →
    ∀ location, (Compile.items options follow location i).Agrees D
      (Compile.items options follow' location i')
  refers : ∀ site, (Occurrence.inItems site i).map Occurrence.mark =
    (Occurrence.inItems site i').map Occurrence.mark

theorem Constraints.Same.refl (hD : Recording D) (c : Constraints) : Constraints.Same D c c :=
  ⟨rfl, fun _ => rfl, fun _ => .refl hD _⟩

namespace Compile
variable {options : CompileOptions} {follow follow' : List String → String → Compiled Shape}

theorem plain_agrees (hD : Recording D) {c c' : Constraints} (hc : c.Same D c')
    (location : List String) (kind : TypeTag) :
    (plain location c kind).Agrees D (plain location c' kind) := by
  cases kind with
  | string => exact hc.string location
  | number =>
    rw [plain, plain, hc.number]
    exact .refl hD _
  | integer =>
    rw [plain, plain, hc.number]
    exact .refl hD _
  | _ => exact .refl hD _

theorem fields_agree (hD : Recording D) (hfollow : FollowsAlike D follow follow')
    {required required' : List String} {properties properties' : List (String × Field)}
    (hfields : SameEntries (Field.Same D) properties properties')
    (hrequired : ∀ p ∈ properties, p.1 ∈ required ↔ p.1 ∈ required') (location : List String) :
    (fields options follow location required properties).Agrees D
      (fields options follow' location required' properties') := by
  induction hfields with
  | nil => exact .refl hD _
  | @cons p p' rest rest' hentry hrest ih =>
    obtain ⟨name, f⟩ := p
    obtain ⟨name', f'⟩ := p'
    obtain ⟨hname, hfield⟩ := hentry
    cases hname
    have hcontains : required.contains name = required'.contains name := by
      rw [Bool.eq_iff_iff, List.contains_iff_mem, List.contains_iff_mem]
      exact hrequired _ List.mem_cons_self
    have hothers := ih fun p hp => hrequired p (List.mem_cons_of_mem _ hp)
    rw [fields, fields, hcontains]
    refine (hfield.compiles options hfollow _).bind hD fun shape => ?_
    exact hothers.map hD fun others => rfl

end Compile

theorem Model.same_of_parts (hD : Recording D) {m m' : Model} (hkind : m.kind = m'.kind)
    (hc : m.constraints.Same D m'.constraints)
    (hfields : SameEntries (Field.Same D) m.properties m'.properties)
    (hrequired : ∀ p ∈ m.properties, p.1 ∈ m.required ↔ p.1 ∈ m'.required)
    (hitems : Items.Same D m.items m'.items) : m.Same D m' := by
  constructor
  · rw [isFixture, isFixture, hkind, hfields.isEmpty]
  · intro options follow follow' hfollow location
    by_cases hobject : m.kind = .object
    · rw [Compile.model_object hobject, Compile.model_object (hkind ▸ hobject)]
      refine (Compile.fields_agree hD hfollow hfields hrequired location).map hD fun fields => ?_
      rw [hc.nullable]
    by_cases harray : m.kind = .array
    · rw [Compile.model_array harray, Compile.model_array (hkind ▸ harray)]
      refine (hitems.compiles options hfollow location).map hD fun items => ?_
      rw [hc.nullable]
    · rw [Compile.model_plain hobject harray,
        Compile.model_plain (hkind ▸ hobject) (hkind ▸ harray), ← hkind]
      refine (Compile.plain_agrees hD hc location m.kind).map hD fun shape => ?_
      rw [hc.nullable]
  · intro site
    by_cases hobject : m.kind = .object
    · rw [Occurrence.inModel_object hobject, Occurrence.inModel_object (hkind ▸ hobject),
        List.map_flatMap, List.map_flatMap]
      exact hfields.flatMap fun name f f' hf => hf.refers _
    by_cases harray : m.kind = .array
    · rw [Occurrence.inModel_array harray, Occurrence.inModel_array (hkind ▸ harray)]
      exact hitems.refers _
    · rw [Occurrence.inModel_other hobject harray,
        Occurrence.inModel_other (hkind ▸ hobject) (hkind ▸ harray)]

theorem Field.same_of_pointer (hD : Recording D) {f f' : Field} {pointer pointer' : String}
    (hf : f.pointer = some pointer) (hf' : f'.pointer = some pointer')
    (hsame : Pointer.modelName pointer = Pointer.modelName pointer') (hobject : f.CountsAsObject)
    (hobject' : f'.CountsAsObject) (hc : f.constraints.Same D f'.constraints) : f.Same D f' := by
  constructor
  · intro options follow follow' hfollow location
    rw [Compile.field_object hobject, Compile.field_object hobject', hf, hf',
      Compile.objectField_pointer, Compile.objectField_pointer]
    refine (hfollow location pointer pointer' hsame).map hD fun shape => ?_
    rw [hc.nullable]
  · intro site
    rw [Occurrence.inField_object hobject, Occurrence.inField_object hobject', hf, hf']
    simp only [List.map_cons, List.map_nil, Occurrence.mark, Occurrence.target, hsame]

theorem Field.same_of_items (hD : Recording D) {f f' : Field} (hf : f.pointer = none)
    (hf' : f'.pointer = none) (hobject : f.CountsAsObject) (hobject' : f'.CountsAsObject)
    (hc : f.constraints.Same D f'.constraints) (hitems : Items.Same D f.items f'.items) :
    f.Same D f' := by
  constructor
  · intro options follow follow' hfollow location
    rw [Compile.field_object hobject, Compile.field_object hobject', hf, hf']
    have hcompiles := hitems.compiles options hfollow location
    have hsome := hitems.isSome
    have hparts : (Compile.objectField options follow location none f.items).Agrees D
        (Compile.objectField options follow' location none f'.items) := by
      cases hi : f.items with
      | none =>
        cases hi' : f'.items with
        | none => exact .refl hD _
        | some i' => simp [hi, hi'] at hsome
      | some i =>
        cases hi' : f'.items with
        | none => simp [hi, hi'] at hsome
        | some i' =>
          rw [hi, hi'] at hcompiles
          rw [Compile.objectField_items, Compile.objectField_items]
          exact hcompiles
    refine hparts.map hD fun shape => ?_
    rw [hc.nullable]
  · intro site
    rw [Occurrence.inField_object hobject, Occurrence.inField_object hobject', hf, hf']
    exact hitems.refers _

theorem Field.same_of_parts (hD : Recording D) {f f' : Field} (hkind : f.kind = f'.kind)
    (hc : f.constraints.Same D f'.constraints)
    (hpointer : f.pointer.map Pointer.modelName = f'.pointer.map Pointer.modelName)
    (hitems : Items.Same D f.items f'.items) : f.Same D f' := by
  have hnone : f.pointer = none ↔ f'.pointer = none := by
    rw [← Option.map_eq_none_iff, hpointer, Option.map_eq_none_iff]
  have hcounts : f.CountsAsObject ↔ f'.CountsAsObject := by
    simp only [Field.CountsAsObject, hkind, ne_eq, hnone]
  by_cases hobject : f.CountsAsObject
  · cases hf : f.pointer with
    | none => exact same_of_items hD hf (hnone.mp hf) hobject (hcounts.mp hobject) hc hitems
    | some pointer =>
      rw [hf] at hpointer
      obtain ⟨pointer', hf', hsame⟩ := Option.map_eq_some_iff.mp hpointer.symm
      exact same_of_pointer hD hf hf' hsame.symm hobject (hcounts.mp hobject) hc
  have hobject' : ¬f'.CountsAsObject := fun h => hobject (hcounts.mpr h)
  constructor
  · intro options follow follow' hfollow location
    by_cases harray : f.kind = .array
    · rw [Compile.field_array harray, Compile.field_array (hkind ▸ harray)]
      refine (hitems.compiles options hfollow location).map hD fun items => ?_
      rw [hc.nullable]
    · rw [Compile.field_plain hobject harray, Compile.field_plain hobject' (hkind ▸ harray),
        ← hkind]
      refine (Compile.plain_agrees hD hc location f.kind).map hD fun shape => ?_
      rw [hc.nullable]
  · intro site
    by_cases harray : f.kind = .array
    · rw [Occurrence.inField_array harray, Occurrence.inField_array (hkind ▸ harray)]
      exact hitems.refers _
    · rw [Occurrence.inField_other hobject harray,
        Occurrence.inField_other hobject' (hkind ▸ harray)]

theorem Items.same_reference {pointer pointer' : String}
    (hsame : Pointer.modelName pointer = Pointer.modelName pointer') :
    Items.Same D (some (.reference pointer)) (some (.reference pointer')) := by
  constructor
  · rfl
  · intro options follow follow' hfollow location
    exact hfollow location pointer pointer' hsame
  · intro site
    simp only [Occurrence.inItems, List.map_cons, List.map_nil, Occurrence.mark,
      Occurrence.target, hsame]

theorem Items.same_inline {m m' : Model} (h : m.Same D m') :
    Items.Same D (some (.inline m)) (some (.inline m')) :=
  ⟨rfl, h.compiles, h.refers⟩

theorem same_nesting (hD : Recording D) :
    NestingCases (fun m => m.Same D m) (fun f => f.Same D f) (fun i => Items.Same D i i) where
  model _ hfields hitems :=
    Model.same_of_parts hD rfl (.refl hD _) (.refl fun p hp => hfields p.1 p.2 hp)
      (fun _ _ => Iff.rfl) hitems
  field _ hitems := Field.same_of_parts hD rfl (.refl hD _) rfl hitems
  noItems := ⟨rfl, fun _ _ _ _ _ => .refl hD _, fun _ => rfl⟩
  reference _ := Items.same_reference rfl
  inline _ hm := Items.same_inline hm

/-- The schemas have the same models under the same names. -/
abbrev Schema.Same (D : List Diagnostic → List Diagnostic → Prop) (s s' : Schema) : Prop :=
  SameEntries (Model.Same D) s.models s'.models

theorem Schema.Same.refl (hD : Recording D) (s : Schema) : s.Same D s :=
  SameEntries.refl fun e _ => (same_nesting hD).all_model e.2

namespace Compile
variable {s s' : Schema}

/-- In schemas with the same models, pointers to the same model are followed alike. -/
theorem followsAlike_along (hD : Recording D) (hs : s.Same D s') (options : CompileOptions)
    (maxDepth : Nat) : ∀ (fuel : Nat) (path : List String),
    FollowsAlike D (resolve options fuel (some (.along s maxDepth path)))
      (resolve options fuel (some (.along s' maxDepth path)))
  | fuel, path => by
    -- Both contexts have the same path behind them, so they go on or stop alike.
    intro location pointer pointer' hname
    have hfound := hs.find? (Pointer.modelName pointer')
    rw [resolve.eq_def, resolve.eq_def]
    dsimp only
    rw [hname, Context.descend_along, Context.descend_along]
    by_cases hcycle : Pointer.modelName pointer' ∈ path
    · simp only [hcycle, if_true]
      exact .refl hD _
    by_cases hdepth : maxDepth ≤ path.length
    · simp only [hcycle, hdepth, if_true, if_false]
      exact .refl hD _
    simp only [hcycle, hdepth, if_false, Context.lookup, Context.along, Schema.model?]
    -- Models of one name are the same, and so is what their references lead to with less fuel.
    generalize KeyMap.find? (Pointer.modelName pointer') s.models = found at hfound ⊢
    generalize KeyMap.find? (Pointer.modelName pointer') s'.models = found' at hfound ⊢
    cases hfound with
    | none => exact .refl hD _
    | some hmodel =>
      cases fuel with
      | zero => exact .refl hD _
      | succ fuel =>
        exact hmodel.compiles options (followsAlike_along hD hs options maxDepth fuel _) location

theorem rowsOf_agree (hD : Recording D) {c c' : Compiler} (hoptions : c.options = c'.options)
    (hfollow : FollowsAlike D c.follow c'.follow) {models models' : List (String × Model)}
    (hmodels : SameEntries (Model.Same D) models models') :
    (rowsOf c models).Agrees D (rowsOf c' models') := by
  induction hmodels with
  | nil => exact .refl hD _
  | @cons e e' rest rest' hentry hrest ih =>
    obtain ⟨name, m⟩ := e
    obtain ⟨name', m'⟩ := e'
    obtain ⟨hname, hmodel⟩ := hentry
    cases hname
    have hfixture : m.isFixture = m'.isFixture := hmodel.isFixture
    have hrow : (c.modelAt [name] m).Agrees D (c'.modelAt [name] m') := by
      rw [Compiler.modelAt, Compiler.modelAt, ← hoptions]
      exact hmodel.compiles c.options hfollow [name]
    unfold rowsOf
    rw [← hfixture]
    cases m.isFixture with
    | false => exact ih
    | true => exact hrow.bind hD fun row => ih.map hD fun others => rfl

theorem rows_agree (hD : Recording D) (hs : s.Same D s') (options : CompileOptions) :
    (rows options s).Agrees D (rows options s') := by
  have hfuel : (Compiler.ofSchema options s').follow =
      resolve options s.models.length (some (.along s' options.maxDepth [])) := by
    rw [hs.length_eq]
    rfl
  have hfollow : FollowsAlike D (Compiler.ofSchema options s).follow
      (Compiler.ofSchema options s').follow := by
    rw [hfuel]
    exact followsAlike_along hD hs options options.maxDepth s.models.length []
  unfold rows
  refine rowsOf_agree hD ?_ hfollow hs
  rfl

end Compile

theorem Schema.Same.report {s s' : Schema} (hs : Schema.Same D s s') :
    (ReferenceGraph.ofSchema s).report = (ReferenceGraph.ofSchema s').report := by
  apply ReferenceGraph.report_congr
  · simp only [ReferenceGraph.marks, ReferenceGraph.ofSchema, List.map_map, Function.comp_def]
    exact hs.map fun name m m' hm => by rw [hm.refers]
  · exact hs.keys_filter Model.isFixture fun m m' hm => hm.isFixture

end RecordShape
