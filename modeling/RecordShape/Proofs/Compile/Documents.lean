import RecordShape.Compile.Document
import RecordShape.Proofs.Shape.Issues

/-!
# Full and partial documents

The documents of a schema have the same keys with the same lists of rows, and the full one needs
all of its keys. So the reports on a value are the same but for the keys of the document that are
missing, which only the full document reports.
-/

namespace RecordShape

/-- A key of the document itself is missing. -/
def Issue.isMissingList (issue : Issue) : Bool :=
  match issue.path with
  | [.key _] => issue.code = .missingKey
  | _ => false

namespace Compile

theorem not_isMissingList_of_mem {shape : Shape} {key : String} {j : Json} {issue : Issue}
    (h : issue ∈ shape.issues [.key key] j) : issue.isMissingList = false := by
  rw [Shape.issues_eq_map_under] at h
  obtain ⟨part, hpart, rfl⟩ := List.mem_map.mp h
  cases hpath : part.path with
  | cons step rest => cases step <;> simp [Issue.isMissingList, Issue.under, hpath]
  | nil =>
    -- The list itself is the value there, and issues about keys lie deeper.
    have hcode : part.code ≠ .missingKey := by
      intro hcode
      obtain ⟨place, last, _, _, hreport⟩ := Shape.exists_reportsKey shape j hpart (.inl hcode)
      rw [hreport.path_eq] at hpath
      exact absurd hpath (List.append_ne_nil_of_right_ne_nil _ (List.cons_ne_nil _ _))
    simp [Issue.isMissingList, Issue.under, hpath, hcode]

theorem keyIssues_optional (members : List (String × Json)) (key : String) (shape : Shape) :
    Shape.keyIssues [] members key ⟨shape, true⟩ =
      (Shape.keyIssues [] members key ⟨shape, false⟩).filter fun issue => !issue.isMissingList := by
  unfold Shape.keyIssues
  cases KeyMap.find? key members with
  | none => rfl
  | some j =>
    refine (List.filter_eq_self.mpr fun issue hissue => ?_).symm
    rw [not_isMissingList_of_mem hissue]
    rfl

theorem issues_assemble (rows : List (String × Shape)) (j : Json) :
    ((assemble rows true).check j).issues =
      ((assemble rows false).check j).issues.filter fun issue => !issue.isMissingList := by
  change Shape.issues [] _ j = (Shape.issues [] _ j).filter _
  cases j with
  | obj members =>
    have hkeys (isOptional : Bool) :
        Shape.issues [] (.object (assemble rows isOptional)) (.obj members) =
          rows.flatMap fun row => Shape.keyIssues [] members row.1 ⟨row.2, isOptional⟩ := by
      rw [assemble, Shape.issues, Shape.fieldIssues_eq, List.flatMap_map]
      exact List.append_nil _
    simp only [hkeys, List.filter_flatMap, keyIssues_optional]
  | _ => rfl

theorem keys_assemble_rows (options : CompileOptions) (s : Schema) (isOptional : Bool) :
    (assemble (rows options s).value isOptional).keys = s.fixtureNames := by
  simp only [assemble_rows, ObjectShape.keys, KeyMap.keys, List.map_map, Schema.fixtureNames,
    Function.comp_def]

theorem accepts_assemble (rows : List (String × Shape)) (isOptional : Bool) (j : Json) :
    (assemble rows isOptional).accepts j = true ↔ ∃ members, j = .obj members ∧
      ∀ row ∈ rows, Shape.KeyAccepted members row.1 ⟨row.2, isOptional⟩ := by
  change (Shape.object _).accepts j = true ↔ _
  rw [assemble, Shape.accepts_object]
  refine exists_congr fun members => and_congr_right fun _ => ?_
  constructor
  · intro h row hrow
    exact h.1 _ _ (List.mem_map_of_mem hrow)
  · intro h
    refine ⟨fun key field hfield => ?_, fun hreject => by cases hreject⟩
    obtain ⟨row, hrow, heq⟩ := List.mem_map.mp hfield
    cases heq
    exact h row hrow

theorem accepts_assemble_required (rows : List (String × Shape)) (j : Json) :
    (assemble rows false).accepts j = true ↔ (assemble rows true).accepts j = true ∧
      ∃ members, j = .obj members ∧
        ∀ key ∈ rows.map Prod.fst, KeyMap.contains members key = true := by
  have hkey (members : List (String × Json)) (key : String) (shape : Shape) :
      Shape.KeyAccepted members key ⟨shape, false⟩ ↔
        Shape.KeyAccepted members key ⟨shape, true⟩ ∧ KeyMap.contains members key = true := by
    unfold Shape.KeyAccepted KeyMap.contains
    cases KeyMap.find? key members <;> simp
  rw [accepts_assemble, accepts_assemble]
  constructor
  · rintro ⟨members, rfl, h⟩
    refine ⟨⟨members, rfl, fun row hrow => ((hkey _ _ _).mp (h row hrow)).1⟩, members, rfl, ?_⟩
    intro key hmem
    obtain ⟨row, hrow, rfl⟩ := List.mem_map.mp hmem
    exact ((hkey _ _ _).mp (h row hrow)).2
  · rintro ⟨⟨members, rfl, h⟩, members', heq, hpresent⟩
    cases heq
    refine ⟨members, rfl, fun row hrow => (hkey _ _ _).mpr ⟨h row hrow, ?_⟩⟩
    exact hpresent _ (List.mem_map_of_mem hrow)

/-- Both documents come from one compilation and have the names of the models with rows as keys.
The report of the partial document is that of the full one without the keys of the document that
are missing, so the full one accepts what the partial one accepts and what has all the keys. -/
theorem documents_differ_in_missing_lists (s : Schema) (options : CompileOptions) (j : Json) :
    (s.documents options).value =
      ⟨(s.fullDocument options).value, (s.partialDocument options).value⟩ ∧
    (s.fullDocument options).diagnostics = (s.documents options).diagnostics ∧
    (s.partialDocument options).diagnostics = (s.documents options).diagnostics ∧
    (s.fullDocument options).value.keys = s.fixtureNames ∧
    (s.partialDocument options).value.keys = s.fixtureNames ∧
    ((s.partialDocument options).value.check j).issues =
      (((s.fullDocument options).value.check j).issues.filter fun issue =>
        !issue.isMissingList) ∧
    ((s.fullDocument options).value.accepts j = true ↔
      (s.partialDocument options).value.accepts j = true ∧ ∃ members, j = .obj members ∧
        ∀ name ∈ s.fixtureNames, KeyMap.contains members name = true) := by
  have hnames : (rows options s).value.map Prod.fst = s.fixtureNames := by
    have hkeys := keys_assemble_rows options s false
    rwa [assemble, ObjectShape.keys, KeyMap.keys, List.map_map] at hkeys
  rw [Schema.diagnostics_fullDocument, Schema.diagnostics_partialDocument,
    Schema.diagnostics_documents, Schema.value_fullDocument, Schema.value_partialDocument]
  refine ⟨rfl, rfl, rfl, ?_, ?_, issues_assemble _ j, ?_⟩
  · exact keys_assemble_rows options s false
  · exact keys_assemble_rows options s true
  · rw [← hnames]
    exact accepts_assemble_required _ j

end Compile
end RecordShape
