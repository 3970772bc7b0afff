import Mathlib.Logic.Relation
import RecordShape.Compile.Document
import RecordShape.Proofs.Compile.Comparison
import RecordShape.Proofs.Schema.Keys

/-!
# Models apart from one another

What becomes of a model depends on the models that its references lead to, and on no others. So a
model that nothing refers to adds a row of its own to the documents of a schema and leaves the
other rows as they are.
-/

namespace RecordShape
open Relation

namespace Schema

/-- A reference of the first model asks for the last, which need not be a model of the schema. -/
def Mentions (s : Schema) (first last : String) : Prop :=
  ∃ m, s.model? first = some m ∧ ∃ o ∈ Occurrence.inModel [] m, o.target = last

theorem model?_withModel_of_ne {s : Schema} {name other : String} (m : Model)
    (h : other ≠ name) : (s.withModel name m).model? other = s.model? other :=
  KeyMap.find?_insert_of_ne h

theorem model?_withModel_of_reached {s : Schema} {name first other : String}
    (hfree : ∀ other, ¬s.Mentions other name) (hne : first ≠ name) (m : Model)
    (hreach : ReflTransGen s.Mentions first other) :
    s.model? other = (s.withModel name m).model? other := by
  refine (model?_withModel_of_ne m ?_).symm
  rintro rfl
  rcases ReflTransGen.cases_tail hreach with heq | ⟨middle, -, hmentions⟩
  · exact hne heq.symm
  · exact hfree middle hmentions

end Schema

namespace Compile
variable {options : CompileOptions} {s₁ s₂ : Schema} {path : List String}

/-- At the end of a path, schemas that agree about what the references of a model lead to compile
the model in the same way. -/
theorem model_eq_at_path (hpath : s₁.IsPath path) (hpath' : s₂.IsPath path) (m : Model)
    (hsame : ∀ o ∈ Occurrence.inModel [] m, ∀ other, ReflTransGen s₁.Mentions o.target other →
      s₁.model? other = s₂.model? other) (location : List String) :
    model options (following options s₁ path) location m =
      model options (following options s₂ path) location m := by
  induction path, hpath using Schema.IsPath.induction_on generalizing m location with
  | step path hpath ih =>
    refine (alike_model (comparison_eq _) m [] (fun o ho location => ?_) location).eq
    have hname : Pointer.modelName o.pointer = o.target := rfl
    have hlookup : s₁.model? o.target = s₂.model? o.target := hsame o ho _ .refl
    rw [following_eq hpath, following_eq hpath', hname, ← hlookup]
    by_cases hmem : o.target ∈ path
    · rw [if_pos hmem, if_pos hmem]
      exact ⟨rfl, rfl⟩
    rw [if_neg hmem, if_neg hmem]
    by_cases hdepth : options.maxDepth ≤ path.length
    · rw [if_pos hdepth, if_pos hdepth]
      exact ⟨rfl, rfl⟩
    rw [if_neg hdepth, if_neg hdepth]
    cases hnext : s₁.model? o.target with
    | none => exact ⟨rfl, rfl⟩
    | some next =>
      have hnext' : s₂.model? o.target = some next := by rw [← hlookup, hnext]
      have hagain := ih o.target next hmem hnext (hpath'.append hmem hnext') next
        (fun o' ho' other hreach =>
          hsame o ho other (.head ⟨next, hnext, o', ho', rfl⟩ hreach)) location
      dsimp only
      rw [hagain]
      exact ⟨rfl, rfl⟩

theorem modelAt_eq_of_reached {name : String} {m : Model} (hm : s₁.model? name = some m)
    (hsame : ∀ other, ReflTransGen s₁.Mentions name other →
      s₁.model? other = s₂.model? other) (location : List String) :
    (Compiler.ofSchema options s₁).modelAt location m =
      (Compiler.ofSchema options s₂).modelAt location m := by
  refine model_eq_at_path .nil .nil m (fun o ho other hreach => ?_) location
  exact hsame other (.head ⟨m, hm, o, ho, rfl⟩ hreach)

section
variable {s : Schema} {name : String}

theorem modelAt_withModel (hnew : s.model? name = none) (hfree : ∀ other, ¬s.Mentions other name)
    (m : Model) {first : String} {m' : Model} (hm' : s.model? first = some m')
    (location : List String) :
    (Compiler.ofSchema options (s.withModel name m)).modelAt location m' =
      (Compiler.ofSchema options s).modelAt location m' := by
  have hne : first ≠ name := by
    rintro rfl
    rw [hm'] at hnew
    cases hnew
  exact (modelAt_eq_of_reached hm'
    (fun _ hreach => Schema.model?_withModel_of_reached hfree hne m hreach) location).symm

theorem assemble_withModel (hkeys : s.models.Ordered) (hnew : s.model? name = none)
    (hfree : ∀ other, ¬s.Mentions other name) (m : Model) (isOptional : Bool) :
    assemble (rows options (s.withModel name m)).value isOptional =
      if m.isFixture then
        (assemble (rows options s).value isOptional).insert name
          (.array ((Compiler.ofSchema options (s.withModel name m)).modelAt [name] m).value)
          isOptional
      else assemble (rows options s).value isOptional := by
  have hmodels : (s.withModel name m).models = KeyMap.insert name m s.models := rfl
  have hrows : ((s.models.filter fun entry => entry.2.isFixture).map fun entry =>
      (entry.1, (⟨.array ((Compiler.ofSchema options (s.withModel name m)).modelAt
        [entry.1] entry.2).value, isOptional⟩ : ShapeField))) =
      (s.models.filter fun entry => entry.2.isFixture).map fun entry =>
        (entry.1, ⟨.array ((Compiler.ofSchema options s).modelAt [entry.1] entry.2).value,
          isOptional⟩) := by
    refine List.map_congr_left fun entry hentry => ?_
    have hfound := (KeyMap.find?_eq_some_iff hkeys).mpr (List.mem_of_mem_filter hentry)
    rw [modelAt_withModel hnew hfree m hfound]
  rw [assemble_rows, assemble_rows, hmodels, KeyMap.filter_insert hkeys hnew]
  by_cases hfixture : m.isFixture = true
  · rw [if_pos hfixture, if_pos hfixture, KeyMap.map_insert, hrows]
    rfl
  · rw [if_neg hfixture, if_neg hfixture, hrows]

end

/-- A document gains the rows of a model, if the model has any, under a key of its own, and every
other key keeps what it had. -/
structure GainsRows (name : String) (m : Model) (row : Shape) (isOptional : Bool)
    (before after : ObjectShape) : Prop where
  eq : after = if m.isFixture then before.insert name (.array row) isOptional else before
  others : ∀ other, other ≠ name → after.field? other = before.field? other

theorem gainsRows_of_eq {name : String} {m : Model} {row : Shape} {isOptional : Bool}
    {before after : ObjectShape}
    (h : after = if m.isFixture then before.insert name (.array row) isOptional else before) :
    GainsRows name m row isOptional before after := by
  refine ⟨h, fun other hne => ?_⟩
  rw [h]
  split
  · exact KeyMap.find?_insert_of_ne hne
  · rfl

/-- Schemas with the same models wherever the references of a model lead compile the model alike.
A model that nothing refers to only adds its own rows to the documents of a schema. -/
theorem compiled_from_reached (options : CompileOptions) :
    (∀ (s₁ s₂ : Schema) (name : String) (m : Model), s₁.model? name = some m →
      (∀ other, ReflTransGen s₁.Mentions name other → s₁.model? other = s₂.model? other) →
      (Compiler.ofSchema options s₁).model m = (Compiler.ofSchema options s₂).model m) ∧
    ∀ (s : Schema) (name : String) (m : Model), s.models.Ordered → s.model? name = none →
      (∀ other, ¬s.Mentions other name) →
      let row := ((Compiler.ofSchema options (s.withModel name m)).modelAt [name] m).value
      GainsRows name m row false (s.fullDocument options).value
        ((s.withModel name m).fullDocument options).value ∧
      GainsRows name m row true (s.partialDocument options).value
        ((s.withModel name m).partialDocument options).value := by
  constructor
  · intro s₁ s₂ name m hm hsame
    exact modelAt_eq_of_reached hm hsame []
  · intro s name m hkeys hnew hfree
    exact ⟨gainsRows_of_eq (assemble_withModel hkeys hnew hfree m false),
      gainsRows_of_eq (assemble_withModel hkeys hnew hfree m true)⟩

/-- Orders have a customer, and customers have a region, of which the schema says nothing. -/
def orderModel : Model where
  kind := .object
  properties := [("customer", .toModel "Customer")]

def orderSchema : Schema where
  models :=
    [("Customer", { kind := .object, properties := [("region", .toModel "Region")] }),
      ("Order", orderModel)]

/-- Invoices refer to orders and to other invoices. -/
def invoiceModel : Model where
  kind := .object
  properties := [("order", .toModel "Order"), ("replaces", .toModel "Invoice")]

private theorem invoice_not_mentioned (other : String) : ¬orderSchema.Mentions other "Invoice" := by
  rintro ⟨m, hm, o, ho, htarget⟩
  have hall : ∀ entry ∈ orderSchema.models, ∀ o ∈ Occurrence.inModel [] entry.2,
      o.target ≠ "Invoice" := by decide +kernel
  exact hall _ (KeyMap.mem_of_find?_eq_some hm) o ho htarget

/-- Adding invoices changes nothing about orders, although the region of a customer is missing. -/
theorem compiled_from_reached_order : orderSchema.models.Ordered ∧
    orderSchema.model? "Order" = some orderModel ∧ orderSchema.model? "Invoice" = none ∧
    (∀ other, ReflTransGen orderSchema.Mentions "Order" other →
      orderSchema.model? other = (orderSchema.withModel "Invoice" invoiceModel).model? other) ∧
    (Compiler.ofSchema {} orderSchema).model orderModel =
      (Compiler.ofSchema {} (orderSchema.withModel "Invoice" invoiceModel)).model orderModel ∧
    ((orderSchema.withModel "Invoice" invoiceModel).fullDocument {}).value.field? "Order" =
      (orderSchema.fullDocument {}).value.field? "Order" := by
  have hkeys : orderSchema.models.Ordered := by
    unfold KeyMap.Ordered
    decide +kernel
  have hsame (other : String) (hreach : ReflTransGen orderSchema.Mentions "Order" other) :
      orderSchema.model? other = (orderSchema.withModel "Invoice" invoiceModel).model? other :=
    Schema.model?_withModel_of_reached invoice_not_mentioned (by decide) invoiceModel hreach
  obtain ⟨hreached, hadded⟩ := compiled_from_reached {}
  refine ⟨hkeys, rfl, rfl, hsame, hreached _ _ "Order" orderModel rfl hsame, ?_⟩
  have hgains := hadded orderSchema "Invoice" invoiceModel hkeys rfl invoice_not_mentioned
  exact hgains.1.others "Order" (by decide)

end Compile
end RecordShape
