import RecordShape.Shape.Check

/-!
# What a shape accepts

The place of a value shows in the paths of its issues and nowhere else. So acceptance can be told
shape by shape: an array is accepted when its elements are, an object when its declared members
are and no forbidden key occurs.
-/

namespace RecordShape

/-- The issue as seen from further up: its path starts with the given one. -/
def Issue.under (path : Path) (issue : Issue) : Issue := { issue with path := path ++ issue.path }

theorem map_under_issueIf (condition : Bool) (path rest : Path) (code : IssueCode)
    (message : String) :
    (issueIf condition rest code message).map (Issue.under path) =
      issueIf condition (path ++ rest) code message := by
  cases condition <;> rfl

@[simp] theorem issueIf_eq_nil (condition : Bool) (path : Path) (code : IssueCode)
    (message : String) : issueIf condition path code message = [] ↔ condition = false := by
  cases condition <;> simp [issueIf]

theorem NumberRules.issues_append (rules : NumberRules) (path rest : Path) (j : Json) :
    rules.issues (path ++ rest) j = (rules.issues rest j).map (Issue.under path) := by
  cases j with
  | num n =>
    simp only [NumberRules.issues, List.map_append, map_under_issueIf]
    cases rules.minimum <;> cases rules.maximum <;> simp [map_under_issueIf]
  | _ => rfl

theorem StringRules.issues_append (rules : StringRules) (path rest : Path) (j : Json) :
    rules.issues (path ++ rest) j = (rules.issues rest j).map (Issue.under path) := by
  cases j with
  | str s =>
    simp only [StringRules.issues, List.map_append]
    cases rules.format <;> cases rules.minLength <;> cases rules.maxLength <;>
      cases rules.pattern <;> simp [map_under_issueIf]
  | _ => rfl

namespace Shape

/-- Induction over a shape, through the fields of objects. -/
@[elab_as_elim]
theorem induction {motive : Shape → Prop} (anyObject : motive anyObject) (null : motive null)
    (boolean : motive boolean) (number : ∀ rules, motive (number rules))
    (string : ∀ rules, motive (string rules)) (literal : ∀ text, motive (literal text))
    (oneOf : ∀ options, motive (oneOf options))
    (array : ∀ items, motive items → motive (array items))
    (object : ∀ fields unknownKeys, (∀ key field, (key, field) ∈ fields → motive field.shape) →
      motive (object ⟨fields, unknownKeys⟩))
    (nullable : ∀ inner, motive inner → motive (nullable inner)) : ∀ shape, motive shape
  | .anyObject => anyObject
  | .null => null
  | .boolean => boolean
  | .number rules => number rules
  | .string rules => string rules
  | .literal text => literal text
  | .oneOf options => oneOf options
  | .array items => array items
      (induction anyObject null boolean number string literal oneOf array object nullable items)
  | .object ⟨fields, unknownKeys⟩ => object fields unknownKeys fun _ field _hfield =>
      induction anyObject null boolean number string literal oneOf array object nullable
        field.shape
  | .nullable inner => nullable inner
      (induction anyObject null boolean number string literal oneOf array object nullable inner)
termination_by shape => sizeOf shape
decreasing_by
  · simp
  · have hlt := List.sizeOf_lt_of_mem _hfield
    cases field
    simp only [Prod.mk.sizeOf_spec, ShapeField.mk.sizeOf_spec] at hlt
    simp only [Shape.object.sizeOf_spec, ObjectShape.mk.sizeOf_spec]
    omega
  · simp

/-- A shape that holds no other shape. -/
def IsAtom : Shape → Prop
  | array _ | object _ | nullable _ => False
  | _ => True

attribute [local simp] issues

theorem listedIssues_append (options : List String) (path rest : Path)
    (message : String → String) (j : Json) :
    listedIssues options (path ++ rest) message j =
      (listedIssues options rest message j).map (Issue.under path) := by
  cases j with
  | str s => simp only [listedIssues, map_under_issueIf]
  | _ => rfl

private theorem elementIssues_append {check : Path → Json → List Issue} (path rest : Path)
    (hcheck : ∀ rest j, check (path ++ rest) j = (check rest j).map (Issue.under path))
    (i : Nat) (elements : List Json) :
    elementIssues check (path ++ rest) i elements =
      (elementIssues check rest i elements).map (Issue.under path) := by
  induction elements generalizing i with
  | nil => rfl
  | cons j others ih =>
    simp only [elementIssues, List.map_append, ih, List.append_assoc, hcheck]

private theorem unknownKeyIssues_append (fields : List (String × ShapeField)) (path rest : Path)
    (members : List (String × Json)) :
    unknownKeyIssues fields (path ++ rest) members =
      (unknownKeyIssues fields rest members).map (Issue.under path) := by
  simp only [unknownKeyIssues, List.map_flatMap, map_under_issueIf, List.append_assoc]

private theorem fieldIssues_append (path rest : Path) (members : List (String × Json))
    (fields : List (String × ShapeField))
    (hfields : ∀ key field, (key, field) ∈ fields → ∀ rest j,
      issues (path ++ rest) field.shape j = (issues rest field.shape j).map (Issue.under path)) :
    fieldIssues (path ++ rest) members fields =
      (fieldIssues rest members fields).map (Issue.under path) := by
  induction fields with
  | nil => rfl
  | cons entry others ih =>
    obtain ⟨key, shape, isOptional⟩ := entry
    have hothers := ih fun key field h => hfields key field (List.mem_cons_of_mem _ h)
    have hfirst := hfields key ⟨shape, isOptional⟩ List.mem_cons_self (rest ++ [.key key])
    simp only [fieldIssues, List.map_append, hothers, List.append_assoc]
    cases KeyMap.find? key members with
    | none => simp [map_under_issueIf]
    | some j => simp [hfirst j]

/-- The issues of a value at a longer path are the same ones, further down. -/
theorem issues_append (shape : Shape) (path : Path) :
    ∀ (rest : Path) (j : Json),
      issues (path ++ rest) shape j = (issues rest shape j).map (Issue.under path) := by
  induction shape using Shape.induction with
  | anyObject => intro rest j; cases j <;> rfl
  | null => intro rest j; cases j <;> rfl
  | boolean => intro rest j; cases j <;> rfl
  | number rules => intro rest j; exact rules.issues_append path rest j
  | string rules => intro rest j; exact rules.issues_append path rest j
  | literal text => intro rest j; exact listedIssues_append [text] path rest _ j
  | oneOf options => intro rest j; exact listedIssues_append options path rest _ j
  | array items ih =>
    intro rest j
    cases j with
    | arr elements => exact elementIssues_append path rest ih 0 elements
    | _ => rfl
  | object fields unknownKeys ih =>
    intro rest j
    cases j with
    | obj members =>
      simp only [issues, List.map_append, fieldIssues_append path rest members fields ih]
      split <;> simp [unknownKeyIssues_append]
    | _ => rfl
  | nullable inner ih =>
    intro rest j
    simp only [issues]
    split
    · rfl
    · exact ih rest j

theorem accepts_iff (shape : Shape) (j : Json) :
    shape.accepts j = true ↔ issues [] shape j = [] := by
  simp [accepts, check, Report.isValid]

theorem issues_eq_nil_iff (shape : Shape) (path : Path) (j : Json) :
    issues path shape j = [] ↔ shape.accepts j = true := by
  have h := issues_append shape path [] j
  rw [List.append_nil] at h
  rw [h, List.map_eq_nil_iff, accepts_iff]

@[simp] theorem accepts_anyObject (j : Json) :
    anyObject.accepts j = true ↔ ∃ members, j = .obj members := by
  rw [accepts_iff]
  cases j <;> simp [issues]

@[simp] theorem accepts_null (j : Json) : null.accepts j = true ↔ j = .null := by
  rw [accepts_iff]
  cases j <;> simp [issues, Json.isNull]

@[simp] theorem accepts_boolean (j : Json) : boolean.accepts j = true ↔ ∃ b, j = .bool b := by
  rw [accepts_iff]
  cases j <;> simp [issues]

@[simp] theorem accepts_number (rules : NumberRules) (j : Json) :
    (number rules).accepts j = true ↔ ∃ n, j = .num n ∧
      (rules.integer = true → n.toDouble.isWhole = true) ∧
      (∀ low, rules.minimum = some low → ¬n.toDouble < low) ∧
      ∀ high, rules.maximum = some high → ¬high < n.toDouble := by
  rw [accepts_iff]
  obtain ⟨integer, minimum, maximum⟩ := rules
  cases j with
  | num n =>
    cases integer <;> cases minimum <;> cases maximum <;> simp [issues, NumberRules.issues]
  | _ => simp [issues, NumberRules.issues]

@[simp] theorem accepts_string (rules : StringRules) (j : Json) :
    (string rules).accepts j = true ↔ ∃ s, j = .str s ∧
      (∀ format, rules.format = some format → format.accepts s = true) ∧
      (∀ low, rules.minLength = some low → low ≤ s.length) ∧
      (∀ high, rules.maxLength = some high → s.length ≤ high) ∧
      ∀ pattern, rules.pattern = some pattern → pattern.occursIn s = true := by
  rw [accepts_iff]
  obtain ⟨format, minLength, maxLength, pattern⟩ := rules
  cases j with
  | str s =>
    cases format <;> cases minLength <;> cases maxLength <;> cases pattern <;>
      simp [issues, StringRules.issues]
  | _ => simp [issues, StringRules.issues]

@[simp] theorem accepts_literal (text : String) (j : Json) :
    (literal text).accepts j = true ↔ j = .str text := by
  rw [accepts_iff]
  cases j <;> simp [issues, listedIssues]

@[simp] theorem accepts_oneOf (options : List String) (j : Json) :
    (oneOf options).accepts j = true ↔ ∃ s, j = .str s ∧ s ∈ options := by
  rw [accepts_iff]
  cases j <;> simp [issues, listedIssues]

@[simp] theorem accepts_array (items : Shape) (j : Json) :
    (array items).accepts j = true ↔
      ∃ elements, j = .arr elements ∧ ∀ e ∈ elements, items.accepts e = true := by
  have helements (i : Nat) (elements : List Json) :
      elementIssues (fun path => issues path items) [] i elements = [] ↔
        ∀ e ∈ elements, items.accepts e = true := by
    induction elements generalizing i with
    | nil => simp [elementIssues]
    | cons e rest ih => simp [elementIssues, issues_eq_nil_iff, ih]
  rw [accepts_iff]
  cases j with
  | arr elements => simp [issues, helements]
  | _ => simp [issues]

/-- A declared key is in order: its member is accepted, or it is absent and may be. -/
def KeyAccepted (members : List (String × Json)) (key : String) (field : ShapeField) : Prop :=
  match KeyMap.find? key members with
  | some j => field.shape.accepts j = true
  | none => field.isOptional = true

theorem keyAccepted_iff (members : List (String × Json)) (key : String) (field : ShapeField) :
    KeyAccepted members key field ↔
      (field.isOptional = false → ∃ j, KeyMap.find? key members = some j) ∧
      ∀ j, KeyMap.find? key members = some j → field.shape.accepts j = true := by
  unfold KeyAccepted
  cases KeyMap.find? key members <;> simp

private theorem fieldIssues_eq_nil_iff (path : Path) (members : List (String × Json))
    (fields : List (String × ShapeField)) :
    fieldIssues path members fields = [] ↔
      ∀ key field, (key, field) ∈ fields → KeyAccepted members key field := by
  induction fields with
  | nil => simp [fieldIssues]
  | cons entry rest ih =>
    obtain ⟨key, shape, isOptional⟩ := entry
    have hfirst : ((match KeyMap.find? key members with
        | some j => issues (path ++ [.key key]) shape j
        | none => issueIf (!isOptional) (path ++ [.key key]) .missingKey
            "required key is missing") = []) ↔ KeyAccepted members key ⟨shape, isOptional⟩ := by
      unfold KeyAccepted
      cases KeyMap.find? key members <;> simp [issues_eq_nil_iff]
    rw [fieldIssues, List.append_eq_nil_iff]
    refine (and_congr hfirst ih).trans ?_
    constructor
    · rintro ⟨h, hrest⟩ k field hmem
      rcases List.mem_cons.mp hmem with heq | hmem
      · cases heq; exact h
      · exact hrest k field hmem
    · intro h
      exact ⟨h _ _ List.mem_cons_self, fun k field hmem => h k field (List.mem_cons_of_mem _ hmem)⟩

@[simp] theorem accepts_object (fields : List (String × ShapeField)) (unknownKeys : UnknownKeys)
    (j : Json) :
    (object ⟨fields, unknownKeys⟩).accepts j = true ↔ ∃ members, j = .obj members ∧
      (∀ key field, (key, field) ∈ fields → KeyAccepted members key field) ∧
      (unknownKeys = .reject → ∀ key w, (key, w) ∈ members →
        KeyMap.contains fields key = true) := by
  rw [accepts_iff]
  cases j with
  | obj members =>
    cases unknownKeys <;> simp [issues, fieldIssues_eq_nil_iff, unknownKeyIssues]
  | _ => simp [issues]

@[simp] theorem accepts_nullable (inner : Shape) (j : Json) :
    (nullable inner).accepts j = true ↔ j = .null ∨ inner.accepts j = true := by
  rw [accepts_iff, accepts_iff]
  cases j <;> simp [issues, Json.isNull]

@[simp] theorem accepts_orNull (shape : Shape) (j : Json) :
    shape.orNull.accepts j = true ↔ j = .null ∨ shape.accepts j = true := by
  cases shape <;> simp [orNull]

end Shape
end RecordShape
