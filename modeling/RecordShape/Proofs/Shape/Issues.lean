import RecordShape.Proofs.Shape.Acceptance

/-!
# Where issues lie

An issue about a key, whether it is missing or not declared, is reported by an object of the shape,
and its path is the place of that object with the key added. Everything else is about a value.
-/

namespace RecordShape

/-- The part of a value at a path. -/
def Json.at? : Path → Json → Option Json
  | [], j => some j
  | .key key :: path, .obj members => (KeyMap.find? key members).bind (at? path)
  | .index i :: path, .arr elements => elements[i]?.bind (at? path)
  | _ :: _, _ => none

theorem Json.at?_append (path rest : Path) (j : Json) :
    j.at? (path ++ rest) = (j.at? path).bind (at? rest) := by
  induction path generalizing j with
  | nil => rfl
  | cons step path ih =>
    cases step with
    | key key =>
      cases j with
      | obj members =>
        rw [List.cons_append, at?, at?, Option.bind_assoc, ← funext ih]
      | _ => rfl
    | index i =>
      cases j with
      | arr elements =>
        rw [List.cons_append, at?, at?, Option.bind_assoc, ← funext ih]
      | _ => rfl

theorem Json.exists_arr_of_index_mem {path : Path} {j w : Json} {i : Nat} (h : j.at? path = some w)
    (hi : .index i ∈ path) : ∃ place items, j.at? place = some (.arr items) ∧ i < items.length := by
  obtain ⟨before, after, rfl⟩ := List.append_of_mem hi
  rw [at?_append, Option.bind_eq_some_iff] at h
  obtain ⟨part, hpart, hrest⟩ := h
  cases part with
  | arr items =>
    obtain ⟨item, hitem, -⟩ := Option.bind_eq_some_iff.mp hrest
    exact ⟨before, items, hpart, (List.getElem?_eq_some_iff.mp hitem).1⟩
  | _ => cases hrest

/-- A path leads from a shape to a part of it. Values that are `null` or not take the same path. -/
inductive Shape.Holds : Shape → Path → Shape → Prop where
  | self (shape : Shape) : Holds shape [] shape
  | inner {inner part : Shape} {path : Path} (h : Holds inner path part) :
    Holds (.nullable inner) path part
  | element {items part : Shape} {path : Path} (i : Nat) (h : Holds items path part) :
    Holds (.array items) (.index i :: path) part
  | field {fields : List (String × ShapeField)} {unknownKeys : UnknownKeys} {key : String}
    {field : ShapeField} {part : Shape} {path : Path} (hfield : (key, field) ∈ fields)
    (h : Holds field.shape path part) :
    Holds (.object ⟨fields, unknownKeys⟩) (.key key :: path) part

/-- The issue is about a key that an object lacks or should not have. -/
def Issue.IsAboutKey (issue : Issue) : Prop :=
  issue.code = .missingKey ∨ issue.code = .unknownKey

theorem mem_issueIf {condition : Bool} {path : Path} {code : IssueCode} {message : String}
    {issue : Issue} : issue ∈ issueIf condition path code message ↔
      condition = true ∧ issue = { path, code, message } := by
  cases condition <;> simp [issueIf]

private theorem not_isAboutKey_of_mem {condition : Bool} {path : Path} {code : IssueCode}
    {message : String} {issue : Issue} (hmissing : code ≠ .missingKey)
    (hunknown : code ≠ .unknownKey) (h : issue ∈ issueIf condition path code message) :
    ¬issue.IsAboutKey := by
  obtain ⟨-, rfl⟩ := mem_issueIf.mp h
  simp [Issue.IsAboutKey, hmissing, hunknown]

section
variable {path : Path} {j : Json} {issue : Issue}

private theorem not_isAboutKey_of_wrongType {expected : String}
    (h : issue ∈ [Issue.wrongType path expected j]) : ¬issue.IsAboutKey := by
  obtain rfl := List.mem_singleton.mp h
  simp [Issue.IsAboutKey, Issue.wrongType]

theorem NumberRules.not_isAboutKey {rules : NumberRules} (h : issue ∈ rules.issues path j) :
    ¬issue.IsAboutKey := by
  cases j with
  | num n =>
    simp only [issues, List.mem_append] at h
    rcases h with (h | h) | h
    · exact not_isAboutKey_of_mem (by decide) (by decide) h
    all_goals
      split at h
      · cases h
      · exact not_isAboutKey_of_mem (by decide) (by decide) h
  | _ => exact not_isAboutKey_of_wrongType h

theorem StringRules.not_isAboutKey {rules : StringRules} (h : issue ∈ rules.issues path j) :
    ¬issue.IsAboutKey := by
  cases j with
  | str s =>
    simp only [issues, List.mem_append] at h
    rcases h with ((h | h) | h) | h
    all_goals
      split at h
      · cases h
      · exact not_isAboutKey_of_mem (by decide) (by decide) h
  | _ => exact not_isAboutKey_of_wrongType h

namespace Shape

theorem listedIssues_not_isAboutKey {options : List String} {message : String → String}
    (h : issue ∈ listedIssues options path message j) : ¬issue.IsAboutKey := by
  cases j with
  | str s => exact not_isAboutKey_of_mem (by decide) (by decide) h
  | _ => exact not_isAboutKey_of_wrongType h

theorem mem_elementIssues {check : Path → Json → List Issue} {elements : List Json} {i : Nat} :
    issue ∈ elementIssues check path i elements ↔ ∃ n e, elements[n]? = some e ∧
      issue ∈ check (path ++ [.index (i + n)]) e := by
  induction elements generalizing i with
  | nil => simp [elementIssues]
  | cons first rest ih =>
    have hshift (n : Nat) : i + 1 + n = i + (n + 1) := by omega
    simp only [elementIssues, List.mem_append, ih, hshift]
    constructor
    · rintro (h | ⟨n, e, he, h⟩)
      · exact ⟨0, first, rfl, h⟩
      · exact ⟨n + 1, e, he, h⟩
    · rintro ⟨_ | n, e, he, h⟩
      · cases he
        exact .inl h
      · exact .inr ⟨n, e, he, h⟩

/-- The issues of one declared key. -/
def keyIssues (path : Path) (members : List (String × Json)) (key : String) (field : ShapeField) :
    List Issue :=
  match KeyMap.find? key members with
  | some j => issues (path ++ [.key key]) field.shape j
  | none => issueIf (!field.isOptional) (path ++ [.key key]) .missingKey "required key is missing"

theorem fieldIssues_eq (path : Path) (members : List (String × Json))
    (fields : List (String × ShapeField)) :
    fieldIssues path members fields =
      fields.flatMap fun field => keyIssues path members field.1 field.2 := by
  induction fields with
  | nil => rfl
  | cons first rest ih =>
    obtain ⟨key, shape, isOptional⟩ := first
    rw [fieldIssues, ih, List.flatMap_cons]
    rfl

theorem issues_eq_map_under (shape : Shape) (path : Path) (j : Json) :
    issues path shape j = (issues [] shape j).map (Issue.under path) := by
  have h := issues_append shape path [] j
  rwa [List.append_nil] at h

/-- An object at a place reports an issue about one of its keys. If the key is not declared, then
the object rejects such keys, and the value has it there. -/
structure ReportsKey (shape : Shape) (j : Json) (issue : Issue) (place : Path) (key : String)
    (fields : List (String × ShapeField)) (unknownKeys : UnknownKeys) : Prop where
  path_eq : issue.path = place ++ [.key key]
  holds : shape.Holds place (.object ⟨fields, unknownKeys⟩)
  unknown : issue.code = .unknownKey → unknownKeys = .reject ∧
    KeyMap.contains fields key = false ∧ ∃ w, j.at? issue.path = some w

private theorem exists_reportsKey_of_keyIssues {members : List (String × Json)} {key : String}
    {fields : List (String × ShapeField)} {unknownKeys : UnknownKeys} {field : ShapeField}
    (hfield : (key, field) ∈ fields)
    (ih : ∀ {issue : Issue} (j : Json), issue ∈ issues [] field.shape j → issue.IsAboutKey →
      ∃ place key fields unknownKeys,
        ReportsKey field.shape j issue place key fields unknownKeys)
    (h : issue ∈ keyIssues [] members key field) (hkey : issue.IsAboutKey) :
    ∃ place key fields' unknownKeys', ReportsKey (.object ⟨fields, unknownKeys⟩) (.obj members)
      issue place key fields' unknownKeys' := by
  unfold keyIssues at h
  cases hfound : KeyMap.find? key members with
  | some w =>
    rw [hfound] at h
    dsimp only at h
    rw [issues_eq_map_under] at h
    obtain ⟨part, hpart, rfl⟩ := List.mem_map.mp h
    obtain ⟨place, last, fields', unknownKeys', hreport⟩ := ih w hpart hkey
    refine ⟨.key key :: place, last, fields', unknownKeys', ?_, .field hfield hreport.holds, ?_⟩
    · exact congrArg (.key key :: ·) hreport.path_eq
    · intro hcode
      obtain ⟨hreject, hnot, w', hw'⟩ := hreport.unknown hcode
      refine ⟨hreject, hnot, w', ?_⟩
      exact (congrArg (·.bind (Json.at? part.path)) hfound).trans hw'
  | none =>
    rw [hfound] at h
    obtain ⟨-, rfl⟩ := mem_issueIf.mp h
    exact ⟨[], key, fields, unknownKeys, rfl, .self _, fun hcode => by cases hcode⟩

private theorem exists_reportsKey_of_unknownKeyIssues {members : List (String × Json)}
    {fields : List (String × ShapeField)} (h : issue ∈ unknownKeyIssues fields [] members) :
    ∃ place key fields' unknownKeys', ReportsKey (.object ⟨fields, .reject⟩) (.obj members)
      issue place key fields' unknownKeys' := by
  obtain ⟨⟨key, w⟩, hmember, h⟩ := List.mem_flatMap.mp h
  obtain ⟨hnot, rfl⟩ := mem_issueIf.mp h
  obtain ⟨w', hw'⟩ := Option.isSome_iff_exists.mp (KeyMap.contains_iff.mpr ⟨w, hmember⟩)
  refine ⟨[], key, fields, .reject, rfl, .self _, fun _ => ⟨rfl, ?_, w', ?_⟩⟩
  · rwa [Bool.not_eq_true'] at hnot
  · exact congrArg (·.bind (Json.at? [])) hw'

/-- An issue about a key is reported by an object of the shape. -/
theorem exists_reportsKey (shape : Shape) (j : Json) (h : issue ∈ issues [] shape j)
    (hkey : issue.IsAboutKey) : ∃ place key fields unknownKeys,
      ReportsKey shape j issue place key fields unknownKeys := by
  induction shape using Shape.induction generalizing j issue with
  | anyObject =>
    cases j with
    | obj members => cases h
    | _ => exact absurd hkey (not_isAboutKey_of_wrongType h)
  | null =>
    rw [issues] at h
    split at h
    · cases h
    · exact absurd hkey (not_isAboutKey_of_wrongType h)
  | boolean =>
    cases j with
    | bool b => cases h
    | _ => exact absurd hkey (not_isAboutKey_of_wrongType h)
  | number rules => exact absurd hkey (NumberRules.not_isAboutKey h)
  | string rules => exact absurd hkey (StringRules.not_isAboutKey h)
  | literal text => exact absurd hkey (listedIssues_not_isAboutKey h)
  | oneOf options => exact absurd hkey (listedIssues_not_isAboutKey h)
  | array items ih =>
    cases j with
    | arr elements =>
      obtain ⟨n, e, he, h⟩ := mem_elementIssues.mp h
      rw [issues_eq_map_under] at h
      obtain ⟨part, hpart, rfl⟩ := List.mem_map.mp h
      obtain ⟨place, key, fields, unknownKeys, hreport⟩ := ih e hpart hkey
      refine ⟨.index (0 + n) :: place, key, fields, unknownKeys, ?_, .element _ hreport.holds, ?_⟩
      · exact congrArg (.index (0 + n) :: ·) hreport.path_eq
      · intro hcode
        obtain ⟨hreject, hnot, w, hw⟩ := hreport.unknown hcode
        refine ⟨hreject, hnot, w, ?_⟩
        rw [← Nat.zero_add n] at he
        exact (congrArg (·.bind (Json.at? part.path)) he).trans hw
    | _ => exact absurd hkey (not_isAboutKey_of_wrongType h)
  | object fields unknownKeys ih =>
    cases j with
    | obj members =>
      rw [issues, List.mem_append, fieldIssues_eq] at h
      rcases h with h | h
      · obtain ⟨⟨key, field⟩, hfield, h⟩ := List.mem_flatMap.mp h
        exact exists_reportsKey_of_keyIssues hfield (ih key field hfield) h hkey
      · split at h
        · rename_i hreject
          cases hreject
          exact exists_reportsKey_of_unknownKeyIssues h
        · cases h
    | _ => exact absurd hkey (not_isAboutKey_of_wrongType h)
  | nullable inner ih =>
    rw [issues] at h
    split at h
    · cases h
    · obtain ⟨place, key, fields, unknownKeys, hreport⟩ := ih j h hkey
      exact ⟨place, key, fields, unknownKeys, hreport.path_eq, .inner hreport.holds,
        hreport.unknown⟩

end Shape
end
end RecordShape
