import RecordShape.Compile.Session
import RecordShape.Proofs.Compile.Equations

/-!
# Calls in a session do not disturb each other

Serving a call looks at the options of a session and at the keys that lead to the node at hand, and
never at the diagnostics collected so far. Every step adds its own diagnostics at the end and leaves
the keys as it found them, so that a call in a session is served as it would be in a fresh one.
-/

namespace RecordShape
namespace Session

section
variable {α β : Type} {options : CompileOptions} {location : List String}

/-- Whatever has been collected before, the step gives the result of `y`, collects the diagnostics
of `y` after the others, and changes nothing else. -/
def Computes (x : StateM Session α) (options : CompileOptions) (location : List String)
    (y : Compiled α) : Prop :=
  ∀ ds, x.run ⟨options, ds, location⟩ = (y.value, ⟨options, ds ++ y.diagnostics, location⟩)

theorem computes_pure (a : α) : Computes (pure a) options location (pure a) := by
  intro ds
  simp
  rfl

theorem Computes.bind {x : StateM Session α} {f : α → StateM Session β} {y : Compiled α}
    {g : α → Compiled β} (hx : Computes x options location y)
    (hf : ∀ a, Computes (f a) options location (g a)) :
    Computes (x >>= f) options location (y >>= g) := by
  intro ds
  rw [StateT.run_bind, hx ds]
  change (f y.value).run _ = _
  rw [hf y.value]
  simp

theorem computes_get {x : Session → StateM Session α} {y : Compiled α}
    (h : ∀ ds, Computes (x ⟨options, ds, location⟩) options location y) :
    Computes (get >>= x) options location y :=
  fun ds => h ds ds

theorem Computes.inside {x : StateM Session α} {key : String} {y : Compiled α}
    (h : Computes x options (location ++ [key]) y) :
    Computes (inside key x) options location y := by
  intro ds
  have hrun : (Session.inside key x).run ⟨options, ds, location⟩ =
      let (a, st) := x.run ⟨options, ds, location ++ [key]⟩
      (a, { st with location := st.location.dropLast }) := rfl
  rw [hrun, h ds]
  simp

theorem computes_degraded (d : Diagnostic) :
    Computes (degraded d) options location (Compiled.degraded d) :=
  fun _ => rfl

theorem computes_unknownKind (tag : String) :
    Computes (unknownKind tag) options location (Compile.unknownKind location tag) :=
  fun _ => rfl

theorem computes_pattern (source : Option String) :
    Computes (pattern source) options location (Compile.pattern location source) := by
  cases source with
  | none => exact computes_pure none
  | some source =>
    unfold pattern Compile.pattern
    dsimp only
    cases Pattern.ofSource source with
    | ok p => exact computes_pure (some p)
    | error message =>
      intro ds
      rfl

theorem computes_string (c : Constraints) :
    Computes (string c) options location (Compile.string location c) := by
  have hrules : Computes
      (do
        let pattern ← pattern c.pattern
        return Shape.string
          { format := c.format.bind StringFormat.ofName?
            minLength := c.minLength
            maxLength := c.maxLength
            pattern })
      options location (do
        let pattern ← Compile.pattern location c.pattern
        return Shape.string
          { format := c.format.bind StringFormat.ofName?
            minLength := c.minLength
            maxLength := c.maxLength
            pattern }) :=
    (computes_pattern c.pattern).bind fun _ => computes_pure _
  unfold string Compile.string
  rcases c.stringValues with _ | ⟨only, _ | ⟨second, rest⟩⟩
  · cases c.hasUnusableValues with
    | true =>
      have hnote : Computes (do record (.emptyEnum (← subject))) options location
          (Compiled.note (.emptyEnum (Compile.subject location))) := by
        intro ds
        rfl
      exact hnote.bind fun _ => hrules
    | false => exact hrules
  · exact computes_pure _
  · exact computes_pure _

end

section
variable {options : CompileOptions} {follow : String → StateM Session Shape}
  {target : List String → String → Compiled Shape}

theorem computes_fields {required : List String} {properties : List (String × Field)}
    (hfield : ∀ name f, (name, f) ∈ properties → ∀ location,
      Computes (field follow f) options location (Compile.field options target location f))
    (location : List String) :
    Computes (fields follow required properties) options location
      (Compile.fields options target location required properties) := by
  induction properties with
  | nil => exact computes_pure []
  | cons p rest ih =>
    obtain ⟨name, f⟩ := p
    have hfirst := hfield name f List.mem_cons_self (location ++ [name])
    have hrest := ih fun name f h => hfield name f (List.mem_cons_of_mem _ h)
    exact hfirst.inside.bind fun _ => hrest.bind fun _ => computes_pure _

theorem computes_nesting (hfollow : ∀ pointer location,
      Computes (follow pointer) options location (target location pointer)) :
    NestingCases
      (fun m => ∀ location,
        Computes (model follow m) options location (Compile.model options target location m))
      (fun f => ∀ location,
        Computes (field follow f) options location (Compile.field options target location f))
      (fun i => ∀ location,
        Computes (items follow i) options location (Compile.items options target location i)) where
  model := by
    rintro ⟨kind, properties, required, elements, c, description⟩ hfields hitems location
    cases kind with
    | object =>
      refine (computes_fields hfields location).bind fun fields => computes_get fun _ => ?_
      exact (computes_pure _).bind fun _ => computes_pure _
    | array => exact (hitems location).bind fun _ => (computes_pure _).bind fun _ => computes_pure _
    | string => exact (computes_string c).bind fun _ => computes_pure _
    | other tag => exact (computes_unknownKind tag).bind fun _ => computes_pure _
    | _ => exact (computes_pure _).bind fun _ => computes_pure _
  field := by
    rintro ⟨kind, c, elements, pointer, description⟩ hitems location
    have hobject : Computes (objectField follow pointer elements) options location
        (Compile.objectField options target location pointer elements) := by
      cases pointer with
      | some pointer => rcases elements with _ | ⟨_ | _⟩ <;> exact hfollow pointer location
      | none =>
        rcases elements with _ | ⟨_ | _⟩
        · exact computes_pure Shape.anyObject
        · exact hitems location
        · exact hitems location
    cases kind with
    | object => exact hobject.bind fun _ => computes_pure _
    | array => exact (hitems location).bind fun _ => (computes_pure _).bind fun _ => computes_pure _
    | string => exact (computes_string c).bind fun _ => computes_pure _
    | other tag =>
      unfold field Compile.field
      dsimp only
      cases tag.isEmpty && pointer.isSome with
      | true => exact hobject.bind fun _ => computes_pure _
      | false => exact (computes_unknownKind tag).bind fun _ => computes_pure _
    | _ => exact (computes_pure _).bind fun _ => computes_pure _
  noItems _ := computes_pure (Shape.array .anyObject)
  reference := hfollow
  inline _ hm := hm

end

theorem computes_resolve (options : CompileOptions) : ∀ (fuel : Nat) (ctx : Option Context)
    (pointer : String) (location : List String),
    Computes (resolve fuel ctx pointer) options location
      (Compile.resolve options fuel ctx location pointer)
  | fuel, none, pointer, location => by
    unfold resolve Compile.resolve
    exact computes_degraded _
  | fuel, some ctx, pointer, location => by
    -- A reference that is cut off is noted; any other leads on to a model, with less fuel.
    unfold resolve Compile.resolve
    dsimp only
    cases ctx.descend (Pointer.modelName pointer) with
    | cycle => exact computes_degraded _
    | tooDeep => exact computes_degraded _
    | proceed next =>
      dsimp only
      cases next.lookup (Pointer.modelName pointer) with
      | none => exact computes_degraded _
      | some m =>
        cases fuel with
        | zero => exact computes_degraded _
        | succ fuel =>
          exact (computes_nesting (computes_resolve options fuel (some next))).all_model m location

/-- References are followed in a session as by a compiler with the same context. -/
theorem computes_follow (c : Compiler) (pointer : String) (location : List String) :
    Computes (follow c.context pointer) c.options location (c.follow location pointer) :=
  computes_resolve c.options (Compile.fuelFor c.context) c.context pointer location

theorem computes_rowsOf (s : Schema) (options : CompileOptions) (models : List (String × Model)) :
    Computes (rowsOf s models) options [] (Compile.rowsOf (.ofSchema options s) models) := by
  induction models with
  | nil => exact computes_pure []
  | cons p rest ih =>
    obtain ⟨name, m⟩ := p
    have hrow := (computes_nesting (computes_follow (.ofSchema options s))).all_model m [name]
    unfold rowsOf Compile.rowsOf
    cases m.isFixture with
    | false => exact ih
    | true =>
      exact computes_get fun _ => hrow.inside.bind fun _ => ih.bind fun _ => computes_pure _

end Session

namespace Call
open Session

/-- What a call compiles to, apart from any session. -/
def compiled (options : CompileOptions) : Call → Compiled Answer
  | field f ctx => return .shape (← (Compiler.mk options ctx).field f)
  | model m ctx => return .shape (← (Compiler.mk options ctx).model m)
  | object m ctx => return .object (← (Compiler.mk options ctx).object m)
  | items i ctx => return .shape (← (Compiler.mk options ctx).items i)
  | resolve pointer ctx => return .shape (← (Compiler.mk options ctx).resolve pointer)
  | fullDocument s => return .object (← s.fullDocument options)
  | partialDocument s => return .object (← s.partialDocument options)
  | documents s => return .documents (← s.documents options)

theorem computes_serve (options : CompileOptions) (call : Call) :
    Computes call.serve options [] (call.compiled options) := by
  have hparts (ctx : Option Context) := computes_nesting (computes_follow ⟨options, ctx⟩)
  have hrows (s : Schema) := computes_rowsOf s options s.models
  cases call with
  | field f ctx =>
    exact ((hparts ctx).all_field f []).bind fun _ => computes_pure _
  | model m ctx =>
    exact ((hparts ctx).all_model m []).bind fun _ => computes_pure _
  | object m ctx =>
    have hfields : Computes (fields (follow ctx) m.required m.properties) options []
        (Compile.fields options (Compiler.mk options ctx).follow [] m.required m.properties) :=
      computes_fields (fun _ f _ => (hparts ctx).all_field f) []
    have hobject : Computes (Session.object (follow ctx) m) options []
        ((Compiler.mk options ctx).object m) :=
      hfields.bind fun _ => computes_get fun _ => computes_pure _
    exact hobject.bind fun _ => computes_pure _
  | items i ctx =>
    exact ((hparts ctx).all_items i []).bind fun _ => computes_pure _
  | resolve pointer ctx =>
    exact (computes_follow ⟨options, ctx⟩ pointer []).bind fun _ => computes_pure _
  | fullDocument s =>
    have h : Computes (Session.fullDocument s) options [] (s.fullDocument options) :=
      (hrows s).bind fun _ => computes_pure _
    exact h.bind fun _ => computes_pure _
  | partialDocument s =>
    have h : Computes (Session.partialDocument s) options [] (s.partialDocument options) :=
      (hrows s).bind fun _ => computes_pure _
    exact h.bind fun _ => computes_pure _
  | documents s =>
    have h : Computes (Session.documents s) options [] (s.documents options) :=
      (hrows s).bind fun _ => computes_pure _
    exact h.bind fun _ => computes_pure _

/-- The calls one after another compute what each of them compiles to. -/
theorem computes_serveAll (options : CompileOptions) (calls : List Call) :
    Computes (serveAll calls) options []
      ⟨calls.map fun call => (call.compiled options).value,
        calls.flatMap fun call => (call.compiled options).diagnostics⟩ := by
  induction calls with
  | nil => exact computes_pure []
  | cons call rest ih =>
    have hstep : Computes (serveAll (call :: rest)) options [] (do
        let answer ← call.compiled options
        let others ← ⟨rest.map fun call => (call.compiled options).value,
          rest.flatMap fun call => (call.compiled options).diagnostics⟩
        return answer :: others) :=
      (computes_serve options call).bind fun _ => ih.bind fun _ => computes_pure _
    intro ds
    rw [hstep ds]
    simp only [Compiled.value_bind, Compiled.value_pure, Compiled.diagnostics_bind,
      Compiled.diagnostics_pure, List.map_cons, List.flatMap_cons, List.append_nil]

/-- Every call is served as in a fresh session with the same options: it gives the same answer,
collects the same diagnostics after those of the calls before, and leaves the session at no key.
What a fresh session does is what compiling apart from any session does. -/
theorem serveAll_fresh (options : CompileOptions) (calls : List Call) :
    let alone (call : Call) := call.serve.run (.fresh options)
    let (answers, after) := (serveAll calls).run (.fresh options)
    answers = calls.map (fun call => (alone call).1) ∧
      after = ⟨options, calls.flatMap fun call => (alone call).2.diagnostics, []⟩ ∧
      ∀ next : Call,
        next.serve.run after =
          ((alone next).1, ⟨options, after.diagnostics ++ (alone next).2.diagnostics, []⟩) ∧
        alone next =
          ((next.compiled options).value, ⟨options, (next.compiled options).diagnostics, []⟩) := by
  have halone (call : Call) : call.serve.run (.fresh options) =
      ((call.compiled options).value, ⟨options, (call.compiled options).diagnostics, []⟩) :=
    computes_serve options call []
  have hall : (serveAll calls).run (.fresh options) =
      (calls.map fun call => (call.compiled options).value,
        ⟨options, calls.flatMap fun call => (call.compiled options).diagnostics, []⟩) :=
    computes_serveAll options calls []
  simp only [hall, halone]
  refine ⟨trivial, trivial, fun next => ⟨?_, trivial⟩⟩
  exact computes_serve options next _

end Call
end RecordShape
