import RecordShape.Compile.Document
import RecordShape.Proofs.Compile.Comparison
import RecordShape.Proofs.Shape.Issues

/-!
# Rejecting undeclared keys

A schema is compiled in the same way whether its objects allow undeclared keys or reject them, and
rejecting them adds issues about such keys to a report without hiding or moving others. The issues
that are added are reported by the objects inside the rows of a document.
-/

namespace RecordShape

/-- The issues but for those about keys that are not declared. -/
def Issue.declared (issues : List Issue) : List Issue :=
  issues.filter fun issue => issue.code ≠ .unknownKey

theorem Issue.declared_append (issues issues' : List Issue) :
    Issue.declared (issues ++ issues') = Issue.declared issues ++ Issue.declared issues' :=
  List.filter_append _ _

/-- The first shape reports what the second does, undeclared keys apart. -/
def Shape.Allows (a b : Shape) : Prop :=
  ∀ path j, a.issues path j = Issue.declared (b.issues path j)

namespace Shape
variable {path : Path} {j : Json}

theorem declared_of_isAtom {shape : Shape} (hatom : shape.IsAtom) (j : Json) :
    Issue.declared (shape.issues path j) = shape.issues path j := by
  refine List.filter_eq_self.mpr fun issue hissue => decide_eq_true fun hcode => ?_
  rw [issues_eq_map_under] at hissue
  obtain ⟨part, hpart, rfl⟩ := List.mem_map.mp hissue
  obtain ⟨place, key, fields, unknownKeys, hreport⟩ := exists_reportsKey shape j hpart (.inr hcode)
  -- An atom holds no object that could report a key.
  have hholds := hreport.holds
  cases hholds <;> exact hatom

theorem declared_elementIssues {check check' : Path → Json → List Issue}
    (h : ∀ path j, check path j = Issue.declared (check' path j)) (i : Nat)
    (elements : List Json) :
    elementIssues check path i elements =
      Issue.declared (elementIssues check' path i elements) := by
  induction elements generalizing i with
  | nil => rfl
  | cons first rest ih =>
    rw [elementIssues, elementIssues, h, ih, Issue.declared_append]

theorem declared_keyIssues {a b : Shape} (h : a.Allows b) (isOptional : Bool)
    (members : List (String × Json)) (key : String) :
    keyIssues path members key ⟨a, isOptional⟩ =
      Issue.declared (keyIssues path members key ⟨b, isOptional⟩) := by
  unfold keyIssues
  cases KeyMap.find? key members with
  | some w => exact h _ w
  | none => cases isOptional <;> rfl

theorem declared_unknownKeyIssues (fields : List (String × ShapeField))
    (members : List (String × Json)) :
    Issue.declared (unknownKeyIssues fields path members) = [] := by
  refine List.filter_eq_nil_iff.mpr fun issue hissue => ?_
  obtain ⟨member, -, hissue⟩ := List.mem_flatMap.mp hissue
  obtain ⟨-, rfl⟩ := mem_issueIf.mp hissue
  simp

theorem declared_fieldIssues {ι : Type} (entries : List ι) (key : ι → String)
    (isOptional : ι → Bool) {a b : ι → Shape} (h : ∀ i ∈ entries, (a i).Allows (b i))
    (members : List (String × Json)) :
    fieldIssues path members (entries.map fun i => (key i, ⟨a i, isOptional i⟩)) =
      Issue.declared
        (fieldIssues path members (entries.map fun i => (key i, ⟨b i, isOptional i⟩))) := by
  rw [fieldIssues_eq, fieldIssues_eq, List.flatMap_map, List.flatMap_map, Issue.declared,
    List.filter_flatMap]
  exact List.flatMap_congr fun i hi => declared_keyIssues (h i hi) (isOptional i) members (key i)

theorem issues_orNull (shape : Shape) (path : Path) (j : Json) :
    shape.orNull.issues path j = if j.isNull then [] else shape.issues path j := by
  cases shape <;> cases j <;> simp [orNull, issues, Json.isNull]

/-- Allowing undeclared keys everywhere passes on from the parts to the whole. -/
theorem comparison_allows : Comparison .allow .reject Allows Eq where
  atom shape hatom path j := (declared_of_isAtom hatom j).symm
  array a b h path j := by
    cases j with
    | arr elements => exact declared_elementIssues h 0 elements
    | _ => rfl
  orNull a b h path j := by
    rw [issues_orNull, issues_orNull, h path j]
    split <;> rfl
  object entries key isOptional a b h path j := by
    cases j with
    | obj members =>
      rw [issues, issues, declared_fieldIssues entries key isOptional h members]
      rw [if_neg (by decide), if_pos rfl, Issue.declared_append, declared_unknownKeyIssues]
    | _ => rfl
  same _ := rfl
  append _ _ _ _ h h' := congrArg₂ _ h h'

end Shape

/-- The issue is about a key of the value, at the place of an object of the document that rejects
keys it does not declare. That object lies inside a row. -/
def Issue.IsFromRow (issue : Issue) (s : Schema) (document : ObjectShape) (j : Json) : Prop :=
  ∃ name ∈ s.fixtureNames, ∃ (n : Nat) (rest : Path) (key : String)
    (fields : List (String × ShapeField)),
    issue.path = .key name :: .index n :: (rest ++ [.key key]) ∧
    (∃ w, j.at? issue.path = some w) ∧
    (Shape.object document).Holds (.key name :: .index n :: rest) (.object ⟨fields, .reject⟩) ∧
    KeyMap.contains fields key = false

/-- Two compilations of a document of a schema, of which the second adds issues about undeclared
keys to the report on a value and changes nothing else. -/
structure StricterOnKeys (s : Schema) (j : Json) (allowing rejecting : Compiled ObjectShape) :
    Prop where
  diagnostics : allowing.diagnostics = rejecting.diagnostics
  issues : (allowing.value.check j).issues =
    (rejecting.value.check j).issues.filter fun issue => issue.code ≠ .unknownKey
  added : ∀ issue ∈ (rejecting.value.check j).issues, issue.code = .unknownKey →
    issue.IsFromRow s rejecting.value j

namespace Compile
variable {s : Schema} {maxDepth : Nat} {path : List String}

theorem alike_allowing (hpath : s.IsPath path) (location : List String) (m : Model) :
    (model ⟨maxDepth, .allow⟩ (following ⟨maxDepth, .allow⟩ s path) location m).Alike
      Shape.Allows Eq
      (model ⟨maxDepth, .reject⟩ (following ⟨maxDepth, .reject⟩ s path) location m) := by
  refine alike_at_path Shape.comparison_allows (fun path hpath location pointer hon => ?_)
    hpath location m
  have hcut (d : Diagnostic) :
      (Compiled.degraded d).Alike Shape.Allows Eq (Compiled.degraded d) :=
    ⟨Shape.comparison_allows.atom _ trivial, rfl⟩
  rw [following_eq hpath, following_eq hpath]
  by_cases hmem : Pointer.modelName pointer ∈ path
  · rw [if_pos hmem, if_pos hmem]
    exact hcut _
  rw [if_neg hmem, if_neg hmem]
  by_cases hdepth : maxDepth ≤ path.length
  · rw [if_pos hdepth, if_pos hdepth]
    exact hcut _
  rw [if_neg hdepth, if_neg hdepth]
  cases hnext : s.model? (Pointer.modelName pointer) with
  | none => exact hcut _
  | some next => exact hon next hmem hnext

theorem diagnostics_rows_allowing (s : Schema) (maxDepth : Nat) :
    (rows ⟨maxDepth, .allow⟩ s).diagnostics = (rows ⟨maxDepth, .reject⟩ s).diagnostics := by
  rw [rows, rows, diagnostics_rowsOf, diagnostics_rowsOf]
  exact List.flatMap_congr fun m _ => (alike_allowing .nil [m.1] m.2).diagnostics

theorem issues_assemble_allowing (s : Schema) (maxDepth : Nat) (isOptional : Bool) (j : Json) :
    ((assemble (rows ⟨maxDepth, .allow⟩ s).value isOptional).check j).issues =
      Issue.declared
        ((assemble (rows ⟨maxDepth, .reject⟩ s).value isOptional).check j).issues := by
  rw [assemble_rows, assemble_rows]
  change Shape.issues [] _ j = Issue.declared (Shape.issues [] _ j)
  cases j with
  | obj members =>
    have hdocument (fields : List (String × ShapeField)) :
        Shape.issues [] (.object ⟨fields, .allow⟩) (.obj members) =
          Shape.fieldIssues [] members fields := List.append_nil _
    rw [hdocument, hdocument]
    refine Shape.declared_fieldIssues _ _ _ (fun m _ => ?_) members
    exact Shape.comparison_allows.array _ _ (alike_allowing .nil [m.1] m.2).value
  | _ => rfl

theorem isFromRow_of_mem {options : CompileOptions} {isOptional : Bool} {j : Json} {issue : Issue}
    (h : issue ∈ ((assemble (rows options s).value isOptional).check j).issues)
    (hcode : issue.code = .unknownKey) :
    issue.IsFromRow s (assemble (rows options s).value isOptional) j := by
  obtain ⟨place, key, fields, unknownKeys, hreport⟩ :=
    Shape.exists_reportsKey (.object (assemble (rows options s).value isOptional)) j h (.inr hcode)
  obtain ⟨hreject, hnot, hw⟩ := hreport.unknown hcode
  subst hreject
  have hpath := hreport.path_eq
  have hholds := hreport.holds
  rw [assemble_rows] at hholds
  cases hholds with
  | field hfield hrow =>
    obtain ⟨⟨name, m⟩, hm, heq⟩ := List.mem_map.mp hfield
    cases heq
    cases hrow with
    | element n hrest =>
      refine ⟨name, List.mem_map_of_mem hm, n, _, key, fields, hpath, hw, ?_, hnot⟩
      exact hreport.holds

/-- Rejecting undeclared keys changes nothing about the diagnostics, and adds to a report only
issues about keys that objects inside the rows do not declare. -/
theorem rejecting_adds_unknown_keys (s : Schema) (maxDepth : Nat) (j : Json) :
    StricterOnKeys s j (s.fullDocument ⟨maxDepth, .allow⟩) (s.fullDocument ⟨maxDepth, .reject⟩) ∧
    StricterOnKeys s j (s.partialDocument ⟨maxDepth, .allow⟩)
      (s.partialDocument ⟨maxDepth, .reject⟩) := by
  have hdiagnostics := diagnostics_rows_allowing s maxDepth
  constructor
  · constructor
    · rw [Schema.diagnostics_fullDocument, Schema.diagnostics_fullDocument, hdiagnostics]
    · exact issues_assemble_allowing s maxDepth false j
    · exact fun issue hissue hcode => isFromRow_of_mem hissue hcode
  · constructor
    · rw [Schema.diagnostics_partialDocument, Schema.diagnostics_partialDocument, hdiagnostics]
    · exact issues_assemble_allowing s maxDepth true j
    · exact fun issue hissue hcode => isFromRow_of_mem hissue hcode

end Compile
end RecordShape
