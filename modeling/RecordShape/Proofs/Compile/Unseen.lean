import Mathlib.Logic.Relation
import RecordShape.Proofs.Compile.Sameness
import RecordShape.Proofs.Schema.Rewriting

/-!
# What compiling does not see

A rule that puts the same in the place of the same may be used anywhere in a schema, any number of
times. Descriptions, relationships and everything else that is unseen leave all results as they
are. Patterns and listed values that are of no use leave all results but their own diagnostics.
-/

namespace RecordShape
open Relation

variable {D : List Diagnostic → List Diagnostic → Prop}

/-- What the rules replace is the same. -/
structure Rules.Sound (D : List Diagnostic → List Diagnostic → Prop) (R : Rules) : Prop where
  schema : ∀ s s', R.schema s s' → s.models = s'.models
  model : ∀ m m', R.model m m' → m.Same D m'
  field : ∀ f f', R.field f f' → f.Same D f'
  items : ∀ i i', R.items i i' → Items.Same D (some i) (some i')

section
variable {R : Rules}

/- By the places of a step: what encloses the place has the same parts before and after. -/
mutual
theorem Model.Rewrites.same (hD : Recording D) (hR : R.Sound D) :
    ∀ {m m' : Model}, m.Rewrites R m' → m.Same D m'
  | _, _, .here h => hR.model _ _ h
  | m, _, .property _ _ hm h => by
    have hfield := Field.Rewrites.same hD hR h
    refine Model.same_of_parts hD rfl (.refl hD _) ?_ (fun _ _ => Iff.rfl)
      ((same_nesting hD).all_items _)
    rw [hm]
    exact SameEntries.replace (same_nesting hD).all_field hfield
  | m, _, .items hm h => by
    have hitems := Items.Rewrites.same hD hR h
    refine Model.same_of_parts hD rfl (.refl hD _) ?_ (fun _ _ => Iff.rfl) ?_
    · exact .refl fun p _ => (same_nesting hD).all_field p.2
    · rw [hm]
      exact hitems

theorem Field.Rewrites.same (hD : Recording D) (hR : R.Sound D) :
    ∀ {f f' : Field}, f.Rewrites R f' → f.Same D f'
  | _, _, .here h => hR.field _ _ h
  | f, _, .items hf h => by
    have hitems := Items.Rewrites.same hD hR h
    refine Field.same_of_parts hD rfl (.refl hD _) rfl ?_
    rw [hf]
    exact hitems

theorem Items.Rewrites.same (hD : Recording D) (hR : R.Sound D) :
    ∀ {i i' : Items}, i.Rewrites R i' → Items.Same D (some i) (some i')
  | _, _, .here h => hR.items _ _ h
  | _, _, .inline h => Items.same_inline (Model.Rewrites.same hD hR h)
end

theorem Schema.Rewrites.same (hD : Recording D) (hR : R.Sound D) {s s' : Schema}
    (h : s.Rewrites R s') : s.Same D s' := by
  cases h with
  | here h =>
    have hmodels := hR.schema _ _ h
    unfold Schema.Same
    rw [← hmodels]
    exact Schema.Same.refl hD s
  | model _ _ hs h =>
    unfold Schema.Same
    rw [hs]
    exact SameEntries.replace (same_nesting hD).all_model (h.same hD hR)

end

namespace Compile

/-- Listed values that are of no use are noted. -/
def noteValues (location : List String) (c : Constraints) : Compiled Unit :=
  if c.hasUnusableValues then Compiled.note (.emptyEnum (subject location)) else pure ()

theorem string_of_rules {c : Constraints} (hc : c.stringValues = []) (location : List String) :
    string location c = do
      noteValues location c
      let pattern ← pattern location c.pattern
      return .string
        { format := c.format.bind StringFormat.ofName?
          minLength := c.minLength
          maxLength := c.maxLength
          pattern } := by
  unfold string noteValues
  rw [hc]
  cases c.hasUnusableValues <;> rfl

end Compile

/-- The constraints but for the format, the listed values and the pattern. -/
def Constraints.rest (c : Constraints) : Constraints :=
  { c with format := none, values := none, pattern := none }

theorem Constraints.same_of_rest (hD : Recording D) {c c' : Constraints} (hrest : c.rest = c'.rest)
    (hformat : c.format.bind StringFormat.ofName? = c'.format.bind StringFormat.ofName?)
    (hstrings : c.stringValues = c'.stringValues)
    (hnoted : c.stringValues = [] → ∀ location,
      (Compile.noteValues location c).Agrees D (Compile.noteValues location c'))
    (hpattern : ∀ location,
      (Compile.pattern location c.pattern).Agrees D (Compile.pattern location c'.pattern)) :
    c.Same D c' := by
  simp only [rest, Constraints.mk.injEq, true_and] at hrest
  obtain ⟨hminimum, hmaximum, hminLength, hmaxLength, hnullable⟩ := hrest
  constructor
  · funext shape
    rw [Compile.nullable, Compile.nullable, hnullable]
  · intro integer
    rw [Compile.number, Compile.number, hminimum, hmaximum]
  · intro location
    by_cases hc : c.stringValues = []
    · rw [Compile.string_of_rules hc, Compile.string_of_rules (hstrings ▸ hc), hformat,
        hminLength, hmaxLength]
      exact (hnoted hc location).bind hD fun _ => (hpattern location).map hD fun _ => rfl
    · have hsame : Compile.string location c = Compile.string location c' := by
        unfold Compile.string
        rw [← hstrings]
        rcases hvalues : c.stringValues with _ | ⟨only, _ | ⟨second, rest⟩⟩
        · exact absurd hvalues hc
        · rfl
        · rfl
      rw [hsame]
      exact .refl hD _

theorem Constraints.Unseen.same (hD : Recording D) {c c' : Constraints} (h : c.Unseen c') :
    c.Same D c' := by
  cases h with
  | unknownFormat hc hname =>
    refine Constraints.same_of_rest hD rfl ?_ rfl (fun _ _ => .refl hD _) fun _ => .refl hD _
    rw [hc]
    exact hname
  | uri hc =>
    refine Constraints.same_of_rest hD rfl ?_ rfl (fun _ _ => .refl hD _) fun _ => .refl hD _
    rw [hc]
    rfl
  | url hc =>
    refine Constraints.same_of_rest hD rfl ?_ rfl (fun _ _ => .refl hD _) fun _ => .refl hD _
    rw [hc]
    rfl
  | @values values values' hc hstring hsame =>
    have hstrings : c.stringValues = values.filterMap Json.string? := by
      rw [Constraints.stringValues, hc]
      rfl
    refine Constraints.same_of_rest hD rfl rfl ?_ (fun hnone => ?_) fun _ => .refl hD _
    · rw [hstrings, ← hsame]
      rfl
    · rw [hstrings] at hnone
      exact absurd hnone hstring

theorem Model.Unseen.same (hD : Recording D) {m m' : Model} (h : m.Unseen m') : m.Same D m' := by
  have hfields : SameEntries (Field.Same D) m.properties m.properties :=
    .refl fun p _ => (same_nesting hD).all_field p.2
  have hitems := (same_nesting hD).all_items m.items
  cases h with
  | description =>
    exact Model.same_of_parts hD rfl (.refl hD _) hfields (fun _ _ => Iff.rfl) hitems
  | required required hrequired =>
    exact Model.same_of_parts hD rfl (.refl hD _) hfields (fun p hp => (hrequired p hp).symm) hitems

theorem Field.Unseen.same (hD : Recording D) {f f' : Field} (h : f.Unseen f') : f.Same D f' := by
  have hitems := (same_nesting hD).all_items f.items
  cases h with
  | description => exact Field.same_of_parts hD rfl (.refl hD _) rfl hitems
  | pointer hf hsame =>
    refine Field.same_of_parts hD rfl (.refl hD _) ?_ hitems
    rw [hf, Option.map_some, Option.map_some, hsame]
  | toObject hkind hf =>
    obtain ⟨pointer, hpointer⟩ := Option.ne_none_iff_exists'.mp hf
    exact Field.same_of_pointer hD hpointer hpointer rfl (.inr ⟨hkind, hf⟩) (.inl rfl) (.refl hD _)
  | ofObject hkind hf =>
    obtain ⟨pointer, hpointer⟩ := Option.ne_none_iff_exists'.mp hf
    exact Field.same_of_pointer hD hpointer hpointer rfl (.inl hkind) (.inr ⟨rfl, hf⟩) (.refl hD _)
  | items hkind hf items =>
    obtain ⟨pointer, hpointer⟩ := Option.ne_none_iff_exists'.mp hf
    exact Field.same_of_pointer hD hpointer hpointer rfl (.inl hkind) (.inl hkind) (.refl hD _)

theorem Rules.sound_ofConstraints (hD : Recording D) {C : Constraints → Constraints → Prop}
    (hC : ∀ c c', C c c' → c.Same D c') : (Rules.ofConstraints C).Sound D where
  schema _ _ h := h.elim
  model m m' h := by
    obtain ⟨c, hc, rfl⟩ := h
    exact Model.same_of_parts hD rfl (hC _ _ hc)
      (.refl fun p _ => (same_nesting hD).all_field p.2) (fun _ _ => Iff.rfl)
      ((same_nesting hD).all_items _)
  field f f' h := by
    obtain ⟨c, hc, rfl⟩ := h
    exact Field.same_of_parts hD rfl (hC _ _ hc) rfl ((same_nesting hD).all_items _)
  items _ _ h := h.elim

theorem Rules.sound_unseen (hD : Recording D) : Rules.unseen.Sound D where
  schema s s' h := by
    obtain ⟨relationships, rfl⟩ := h
    rfl
  model m m' h := by
    rcases h with h | h
    · exact h.same hD
    · exact (sound_ofConstraints hD fun _ _ h => h.same hD).model m m' h
  field f f' h := by
    rcases h with h | h
    · exact h.same hD
    · exact (sound_ofConstraints hD fun _ _ h => h.same hD).field f f' h
  items i i' h := by
    obtain ⟨hsame⟩ := h
    exact Items.same_reference hsame.symm

/-- The second run records what the first does, in the same order, but for some diagnostics with
the given code. -/
structure Misses (code : DiagnosticCode) (ds ds' : List Diagnostic) : Prop where
  sublist : ds'.Sublist ds
  others : ds'.filter (·.code ≠ code) = ds.filter (·.code ≠ code)

theorem recording_misses (code : DiagnosticCode) : Recording (Misses code) where
  same ds := ⟨.refl ds, rfl⟩
  append h h' := ⟨h.sublist.append h'.sublist, by
    rw [List.filter_append, List.filter_append, h.others, h'.others]⟩
  trans h h' := ⟨h'.sublist.trans h.sublist, h'.others.trans h.others⟩

theorem Misses.one (d : Diagnostic) : Misses d.code [d] [] :=
  ⟨List.nil_sublist _, by simp⟩

theorem Constraints.DropsPattern.same {c c' : Constraints} (h : c.DropsPattern c') :
    c.Same (Misses .invalidPattern) c' := by
  have hD := recording_misses .invalidPattern
  obtain ⟨hc, hsource⟩ := h
  refine Constraints.same_of_rest hD rfl rfl rfl (fun _ _ => .refl hD _) fun location => ?_
  rw [hc]
  simp only [Compile.pattern, hsource]
  exact ⟨rfl, Misses.one (.invalidPattern _ _ _)⟩

theorem Constraints.DropsValues.same {c c' : Constraints} (h : c.DropsValues c') :
    c.Same (Misses .emptyEnum) c' := by
  have hD := recording_misses .emptyEnum
  obtain ⟨hc⟩ := h
  have hstrings : c.stringValues = [] := by
    simp only [Constraints.hasUnusableValues, Bool.and_eq_true] at hc
    exact List.isEmpty_iff.mp hc.2
  refine Constraints.same_of_rest hD rfl rfl hstrings (fun _ location => ?_) fun _ => .refl hD _
  rw [Compile.noteValues, if_pos hc]
  exact ⟨rfl, Misses.one (.emptyEnum _)⟩

/-- The documents of both schemas have the same shapes, their diagnostics are related, and the
reports of both graphs are the same. -/
structure Schema.Alike (D : List Diagnostic → List Diagnostic → Prop) (options : CompileOptions)
    (s s' : Schema) : Prop where
  full : (s.fullDocument options).Agrees D (s'.fullDocument options)
  part : (s.partialDocument options).Agrees D (s'.partialDocument options)
  both : (s.documents options).Agrees D (s'.documents options)
  report : (ReferenceGraph.ofSchema s).report = (ReferenceGraph.ofSchema s').report

namespace Schema.Alike
variable {options : CompileOptions} {s s' s'' : Schema}

theorem trans (hD : Recording D) (h : s.Alike D options s') (h' : s'.Alike D options s'') :
    s.Alike D options s'' :=
  ⟨h.full.trans hD h'.full, h.part.trans hD h'.part, h.both.trans hD h'.both,
    h.report.trans h'.report⟩

theorem of_same (hD : Recording D) (h : s.Same D s') : s.Alike D options s' := by
  have hrows := Compile.rows_agree hD h options
  exact ⟨hrows.map hD fun _ => rfl, hrows.map hD fun _ => rfl, hrows.map hD fun _ => rfl,
    h.report⟩

/-- Any number of steps by sound rules. -/
theorem of_rewrites (hD : Recording D) {R : Rules} (hR : R.Sound D)
    (h : ReflTransGen (Schema.Rewrites R) s s') : s.Alike D options s' := by
  induction h with
  | refl => exact of_same hD (.refl hD s)
  | tail _ hstep ih => exact ih.trans hD (of_same hD (hstep.same hD hR))

end Schema.Alike

/-- However often and wherever in a schema, replacing what does not matter changes no document, no
diagnostic and no report. Dropping patterns that cannot be understood, or listed values none of
which is a string, changes no document and no report either, and of the diagnostics only those go
that noted just that. -/
theorem Schema.unseen_by_compiling (options : CompileOptions) (s s' : Schema) :
    (ReflTransGen (Schema.Rewrites .unseen) s s' →
      s.fullDocument options = s'.fullDocument options ∧
      s.partialDocument options = s'.partialDocument options ∧
      s.documents options = s'.documents options ∧
      (ReferenceGraph.ofSchema s).report = (ReferenceGraph.ofSchema s').report) ∧
    (ReflTransGen (Schema.Rewrites (.ofConstraints Constraints.DropsPattern)) s s' →
      s.Alike (Misses .invalidPattern) options s') ∧
    (ReflTransGen (Schema.Rewrites (.ofConstraints Constraints.DropsValues)) s s' →
      s.Alike (Misses .emptyEnum) options s') := by
  refine ⟨fun h => ?_, fun h => ?_, fun h => ?_⟩
  · have hD := recording_eq
    have halike : s.Alike Eq options s' := .of_rewrites hD (Rules.sound_unseen hD) h
    exact ⟨halike.full.eq, halike.part.eq, halike.both.eq, halike.report⟩
  · have hD := recording_misses .invalidPattern
    exact .of_rewrites hD (Rules.sound_ofConstraints hD fun _ _ h => h.same) h
  · have hD := recording_misses .emptyEnum
    exact .of_rewrites hD (Rules.sound_ofConstraints hD fun _ _ h => h.same) h

/-- A memo has an author, a code, links and a state. -/
def memoModel (author : Field) (code link state : Constraints) (required : List String) :
    Model where
  kind := .object
  properties := [("author", author), ("code", { kind := .string, constraints := code }),
    ("links", { kind := .array, items := some (.inline { kind := .string, constraints := link }) }),
    ("state", { kind := .string, constraints := state })]
  required

def memoSchema (m : Model) : Schema where
  models := [("Memo", m)]

private theorem memoSchema_rewrites {R : Rules} {m m' : Model} (h : m.Rewrites R m') :
    (memoSchema m).Rewrites R (memoSchema m') :=
  .model [] [] rfl h

/-- Another pointer to the author and a kind for it, another name for the format of links, and
required names that are not properties change nothing. Dropping the pattern of the code, which
cannot be understood, and the state, which can be no string, drops what was recorded of them. -/
theorem Schema.unseen_by_compiling_memo :
    let broken : Constraints := { pattern := some "(" }
    let numbers : Constraints := { values := some [.bool true] }
    let memo := memoModel { pointer := some "#/models/Author" } broken { format := some "uri" }
      numbers ["author"]
    let other := memoModel { kind := .object, pointer := some "Author.json" } broken
      { format := some "url" } numbers ["ghost", "author", "author"]
    let plain := memoModel { pointer := some "#/models/Author" } {} { format := some "uri" }
      numbers ["author"]
    let loose := memoModel { pointer := some "#/models/Author" } broken { format := some "uri" }
      {} ["author"]
    (ReflTransGen (Schema.Rewrites .unseen) (memoSchema memo) (memoSchema other) ∧
      (memoSchema memo).documents {} = (memoSchema other).documents {}) ∧
    (ReflTransGen (Schema.Rewrites (.ofConstraints Constraints.DropsPattern)) (memoSchema memo)
        (memoSchema plain) ∧
      (memoSchema memo).Alike (Misses .invalidPattern) {} (memoSchema plain)) ∧
    ReflTransGen (Schema.Rewrites (.ofConstraints Constraints.DropsValues)) (memoSchema memo)
        (memoSchema loose) ∧
      (memoSchema memo).Alike (Misses .emptyEnum) {} (memoSchema loose) := by
  intro broken numbers memo other plain loose
  have hpointer : memo.Rewrites .unseen (memoModel { pointer := some "Author.json" } broken
      { format := some "uri" } numbers ["author"]) :=
    .property [] _ rfl (.here (.inl (.pointer rfl (by decide))))
  have hkind : (memoModel { pointer := some "Author.json" } broken { format := some "uri" } numbers
      ["author"]).Rewrites .unseen (memoModel { kind := .object, pointer := some "Author.json" }
        broken { format := some "uri" } numbers ["author"]) :=
    .property [] _ rfl (.here (.inl (.toObject rfl (by simp))))
  have hformat : (memoModel { kind := .object, pointer := some "Author.json" } broken
      { format := some "uri" } numbers ["author"]).Rewrites .unseen
      (memoModel { kind := .object, pointer := some "Author.json" } broken { format := some "url" }
        numbers ["author"]) :=
    .property [_, _] [_] rfl (.items rfl (.inline (.here (.inr ⟨_, .uri rfl, rfl⟩))))
  have hrequired : (memoModel { kind := .object, pointer := some "Author.json" } broken
      { format := some "url" } numbers ["author"]).Rewrites .unseen other := by
    refine .here (.inl (.required ["ghost", "author", "author"] ?_))
    simp [memoModel]
  have hunseen : ReflTransGen (Schema.Rewrites .unseen) (memoSchema memo) (memoSchema other) :=
    .tail (.tail (.tail (.single (memoSchema_rewrites hpointer)) (memoSchema_rewrites hkind))
      (memoSchema_rewrites hformat)) (memoSchema_rewrites hrequired)
  have hpattern : ReflTransGen (Schema.Rewrites (.ofConstraints Constraints.DropsPattern))
      (memoSchema memo) (memoSchema plain) :=
    .single (memoSchema_rewrites (.property [_] [_, _] rfl (.here ⟨_, .intro rfl rfl, rfl⟩)))
  have hvalues : ReflTransGen (Schema.Rewrites (.ofConstraints Constraints.DropsValues))
      (memoSchema memo) (memoSchema loose) :=
    .single (memoSchema_rewrites (.property [_, _, _] [] rfl (.here ⟨_, .intro rfl, rfl⟩)))
  have hall := Schema.unseen_by_compiling {}
  exact ⟨⟨hunseen, ((hall _ _).1 hunseen).2.2.1⟩, ⟨hpattern, (hall _ _).2.1 hpattern⟩, hvalues,
    (hall _ _).2.2 hvalues⟩

end RecordShape
