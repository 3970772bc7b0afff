import Mathlib.Data.List.Nodup
import RecordShape.Proofs.Shape.Issues

/-!
# What a report holds

Checking walks down a shape and a value together. At every place the walk comes to, the part of the
shape asks something of the part of the value. A report holds one issue for everything that is
violated there, and for every key that an object there lacks or should not have, and no other.
-/

namespace RecordShape

namespace Shape

/-- The walk down a shape and a value comes to a part of both. It follows the elements of arrays,
the declared keys that are present, and the inside of a nullable shape unless the value is
`null`. -/
inductive Reaches : Shape → Json → Path → Shape → Json → Prop where
  | here (shape : Shape) (j : Json) : Reaches shape j [] shape j
  | element {items part : Shape} {elements : List Json} {i : Nat} {e w : Json} {path : Path}
    (he : elements[i]? = some e) (h : Reaches items e path part w) :
    Reaches (.array items) (.arr elements) (.index i :: path) part w
  | member {fields : List (String × ShapeField)} {unknownKeys : UnknownKeys} {key : String}
    {field : ShapeField} {members : List (String × Json)} {part : Shape} {e w : Json}
    {path : Path} (hfield : (key, field) ∈ fields) (he : KeyMap.find? key members = some e)
    (h : Reaches field.shape e path part w) :
    Reaches (.object ⟨fields, unknownKeys⟩) (.obj members) (.key key :: path) part w
  | inner {inner part : Shape} {j w : Json} {path : Path} (hj : j ≠ .null)
    (h : Reaches inner j path part w) : Reaches (.nullable inner) j path part w

/-- The JSON type a shape asks for. A nullable shape leaves that to what is inside it. -/
def typeName? : Shape → Option String
  | anyObject | object _ => some "object"
  | null => some "null"
  | boolean => some "boolean"
  | number _ => some "number"
  | string _ | literal _ | oneOf _ => some "string"
  | array _ => some "array"
  | nullable _ => none

/-- The value is not what the shape asks for, in the way the code names. What is further down in
the value does not matter. -/
inductive Violates : Shape → Json → IssueCode → Prop where
  | type {shape : Shape} {j : Json} {name : String} (hname : shape.typeName? = some name)
    (hj : j.kindName ≠ name) : Violates shape j .invalidType
  | notInteger {rules : NumberRules} {n : Number} (hinteger : rules.integer = true)
    (hn : n.toDouble.isWhole = false) : Violates (.number rules) (.num n) .notInteger
  | tooSmall {rules : NumberRules} {n : Number} {low : Double} (hlow : rules.minimum = some low)
    (hn : n.toDouble < low) : Violates (.number rules) (.num n) .tooSmall
  | tooLarge {rules : NumberRules} {n : Number} {high : Double}
    (hhigh : rules.maximum = some high) (hn : high < n.toDouble) :
    Violates (.number rules) (.num n) .tooLarge
  | format {rules : StringRules} {s : String} {format : StringFormat}
    (hformat : rules.format = some format) (hs : format.accepts s = false) :
    Violates (.string rules) (.str s) .invalidFormat
  | tooShort {rules : StringRules} {s : String} {low : Nat} (hlow : rules.minLength = some low)
    (hs : s.length < low) : Violates (.string rules) (.str s) .tooShort
  | tooLong {rules : StringRules} {s : String} {high : Nat} (hhigh : rules.maxLength = some high)
    (hs : high < s.length) : Violates (.string rules) (.str s) .tooLong
  | pattern {rules : StringRules} {s : String} {pattern : Pattern}
    (hpattern : rules.pattern = some pattern) (hs : pattern.occursIn s = false) :
    Violates (.string rules) (.str s) .patternMismatch
  | literal {text s : String} (hs : s ≠ text) : Violates (.literal text) (.str s) .invalidValue
  | oneOf {options : List String} {s : String} (hs : s ∉ options) :
    Violates (.oneOf options) (.str s) .invalidValue

/-- An object lacks a declared key that must be there, or has one that must not. -/
inductive FailsAtKey : Shape → Json → String → IssueCode → Prop where
  | missing {fields : List (String × ShapeField)} {unknownKeys : UnknownKeys}
    {members : List (String × Json)} {key : String} {field : ShapeField}
    (hfield : (key, field) ∈ fields) (hrequired : field.isOptional = false)
    (habsent : KeyMap.contains members key = false) :
    FailsAtKey (.object ⟨fields, unknownKeys⟩) (.obj members) key .missingKey
  | unknown {fields : List (String × ShapeField)} {members : List (String × Json)} {key : String}
    (hpresent : KeyMap.contains members key = true)
    (hundeclared : KeyMap.contains fields key = false) :
    FailsAtKey (.object ⟨fields, .reject⟩) (.obj members) key .unknownKey

/-- Something about the value at a path is amiss: a part of the shape that is reached there is
violated, or an object that is reached one step before fails at the key. -/
def IsAmiss (shape : Shape) (j : Json) (path : Path) (code : IssueCode) : Prop :=
  (∃ part w, shape.Reaches j path part w ∧ part.Violates w code) ∨
  ∃ place key part w, path = place ++ [.key key] ∧ shape.Reaches j place part w ∧
    part.FailsAtKey w key code

end Shape

/-- Some issue has this path and this code. -/
def Reported (issues : List Issue) (path : Path) (code : IssueCode) : Prop :=
  ∃ issue ∈ issues, issue.path = path ∧ issue.code = code

section
variable {issues issues' : List Issue} {path place : Path} {code : IssueCode}

@[simp] theorem not_reported_nil : ¬Reported [] path code := by
  rintro ⟨issue, hissue, -⟩
  cases hissue

@[simp] theorem reported_append :
    Reported (issues ++ issues') path code ↔
      Reported issues path code ∨ Reported issues' path code := by
  simp only [Reported, List.mem_append, or_and_right, exists_or]

@[simp] theorem reported_issueIf {condition : Bool} {code' : IssueCode} {message : String} :
    Reported (issueIf condition place code' message) path code ↔
      condition = true ∧ path = place ∧ code = code' := by
  cases condition <;> simp [Reported, issueIf, eq_comm]

@[simp] theorem reported_wrongType {expected : String} {j : Json} :
    Reported [.wrongType place expected j] path code ↔ path = place ∧ code = .invalidType := by
  simp [Reported, Issue.wrongType, eq_comm]

theorem reported_flatMap {ι : Type} {entries : List ι} {f : ι → List Issue} :
    Reported (entries.flatMap f) path code ↔ ∃ i ∈ entries, Reported (f i) path code := by
  constructor
  · rintro ⟨issue, hissue, h⟩
    obtain ⟨i, hi, hissue⟩ := List.mem_flatMap.mp hissue
    exact ⟨i, hi, issue, hissue, h⟩
  · rintro ⟨i, hi, issue, hissue, h⟩
    exact ⟨issue, List.mem_flatMap.mpr ⟨i, hi, hissue⟩, h⟩

theorem reported_under :
    Reported (issues.map (Issue.under place)) path code ↔
      ∃ rest, path = place ++ rest ∧ Reported issues rest code := by
  constructor
  · rintro ⟨_, hdeeper, rfl, rfl⟩
    obtain ⟨issue, hissue, rfl⟩ := List.mem_map.mp hdeeper
    exact ⟨issue.path, rfl, issue, hissue, rfl, rfl⟩
  · rintro ⟨_, rfl, issue, hissue, rfl, rfl⟩
    exact ⟨_, List.mem_map_of_mem hissue, rfl, rfl⟩

end

namespace Shape
variable {path : Path} {code : IssueCode}

theorem violates_of_wrongType {shape : Shape} {j : Json} {name : String}
    (hname : shape.typeName? = some name) (hj : j.kindName ≠ name) :
    Violates shape j code ↔ code = .invalidType := by
  constructor
  · intro h
    cases h with
    | type => rfl
    | _ =>
      simp only [typeName?, Option.some.injEq] at hname
      exact absurd hname hj
  · rintro rfl
    exact .type hname hj

theorem isAmiss_of_stop {shape : Shape} {j : Json}
    (hstop : ∀ path part w, Reaches shape j path part w → path = [] ∧ part = shape ∧ w = j)
    (hkeys : ∀ key, ¬FailsAtKey shape j key code) :
    IsAmiss shape j path code ↔ path = [] ∧ Violates shape j code := by
  constructor
  · rintro (⟨part, w, hreach, h⟩ | ⟨place, key, part, w, -, hreach, h⟩)
    · obtain ⟨rfl, rfl, rfl⟩ := hstop _ _ _ hreach
      exact ⟨rfl, h⟩
    · obtain ⟨-, rfl, rfl⟩ := hstop _ _ _ hreach
      exact absurd h (hkeys key)
  · rintro ⟨rfl, h⟩
    exact .inl ⟨shape, j, .here shape j, h⟩

theorem isAmiss_atom (shape : Shape) (hatom : shape.IsAtom) (j : Json) :
    IsAmiss shape j path code ↔ path = [] ∧ Violates shape j code := by
  refine isAmiss_of_stop (fun path part w h => ?_) (fun key h => ?_)
  · cases h with
    | here => exact ⟨rfl, rfl, rfl⟩
    | _ => exact hatom.elim
  · cases h <;> exact hatom.elim

theorem isAmiss_wrongType {shape : Shape} {j : Json} {name : String}
    (hname : shape.typeName? = some name) (hj : j.kindName ≠ name) :
    IsAmiss shape j path code ↔ path = [] ∧ code = .invalidType := by
  rw [isAmiss_of_stop (fun path part w h => ?stop) (fun key h => ?keys),
    violates_of_wrongType hname hj]
  case stop =>
    cases h with
    | here => exact ⟨rfl, rfl, rfl⟩
    | inner => cases hname
    | _ =>
      cases hname
      exact absurd rfl hj
  case keys =>
    cases h <;>
    · cases hname
      exact absurd rfl hj

theorem isAmiss_bare {shape : Shape} {name : String}
    (hbare : shape = .anyObject ∨ shape = .null ∨ shape = .boolean)
    (hname : shape.typeName? = some name) (j : Json) :
    IsAmiss shape j path code ↔ j.kindName ≠ name ∧ path = [] ∧ code = .invalidType := by
  have hatom : shape.IsAtom := by rcases hbare with rfl | rfl | rfl <;> trivial
  rw [isAmiss_atom shape hatom]
  by_cases hj : j.kindName = name
  · -- No other constructor is about these shapes.
    have hnone : ¬Violates shape j code := by
      intro h
      cases h with
      | type hname' hj' =>
        rw [hname] at hname'
        cases hname'
        exact hj' hj
      | _ => rcases hbare with h | h | h <;> cases h
    simp [hj, hnone]
  · rw [violates_of_wrongType hname hj]
    simp [hj]

theorem isAmiss_array {items : Shape} {elements : List Json} :
    IsAmiss (.array items) (.arr elements) path code ↔
      ∃ i e rest, elements[i]? = some e ∧ path = .index i :: rest ∧
        IsAmiss items e rest code := by
  constructor
  · rintro (⟨part, w, hreach, h⟩ | ⟨place, key, part, w, rfl, hreach, h⟩)
    · cases hreach with
      | here =>
        cases h with
        | type hname hj =>
          cases hname
          exact absurd rfl hj
      | element he hreach => exact ⟨_, _, _, he, rfl, .inl ⟨part, w, hreach, h⟩⟩
    · cases hreach with
      | here => cases h
      | element he hreach =>
        exact ⟨_, _, _, he, rfl, .inr ⟨_, key, part, w, rfl, hreach, h⟩⟩
  · rintro ⟨i, e, rest, he, rfl, ⟨part, w, hreach, h⟩ | ⟨place, key, part, w, rfl, hreach, h⟩⟩
    · exact .inl ⟨part, w, .element he hreach, h⟩
    · exact .inr ⟨.index i :: place, key, part, w, rfl, .element he hreach, h⟩

theorem isAmiss_object {fields : List (String × ShapeField)} {unknownKeys : UnknownKeys}
    {members : List (String × Json)} :
    IsAmiss (.object ⟨fields, unknownKeys⟩) (.obj members) path code ↔
      (∃ key field, (key, field) ∈ fields ∧ ∃ e rest, KeyMap.find? key members = some e ∧
        path = .key key :: rest ∧ IsAmiss field.shape e rest code) ∨
      ∃ key, path = [.key key] ∧
        FailsAtKey (.object ⟨fields, unknownKeys⟩) (.obj members) key code := by
  constructor
  · rintro (⟨part, w, hreach, h⟩ | ⟨place, key, part, w, rfl, hreach, h⟩)
    · cases hreach with
      | here =>
        cases h with
        | type hname hj =>
          cases hname
          exact absurd rfl hj
      | member hfield he hreach =>
        exact .inl ⟨_, _, hfield, _, _, he, rfl, .inl ⟨part, w, hreach, h⟩⟩
    · cases hreach with
      | here => exact .inr ⟨key, rfl, h⟩
      | member hfield he hreach =>
        exact .inl ⟨_, _, hfield, _, _, he, rfl, .inr ⟨_, key, part, w, rfl, hreach, h⟩⟩
  · rintro (⟨key, field, hfield, e, rest, he, rfl, ⟨part, w, hreach, h⟩ |
      ⟨place, last, part, w, rfl, hreach, h⟩⟩ | ⟨key, rfl, h⟩)
    · exact .inl ⟨part, w, .member hfield he hreach, h⟩
    · exact .inr ⟨.key key :: place, last, part, w, rfl, .member hfield he hreach, h⟩
    · exact .inr ⟨[], key, _, _, rfl, .here _ _, h⟩

theorem isAmiss_nullable {inner : Shape} {j : Json} :
    IsAmiss (.nullable inner) j path code ↔ j ≠ .null ∧ IsAmiss inner j path code := by
  constructor
  · rintro (⟨part, w, hreach, h⟩ | ⟨place, key, part, w, rfl, hreach, h⟩)
    · cases hreach with
      | here =>
        cases h with
        | type hname hj => cases hname
      | inner hj hreach => exact ⟨hj, .inl ⟨part, w, hreach, h⟩⟩
    · cases hreach with
      | here => cases h
      | inner hj hreach => exact ⟨hj, .inr ⟨place, key, part, w, rfl, hreach, h⟩⟩
  · rintro ⟨hj, ⟨part, w, hreach, h⟩ | ⟨place, key, part, w, rfl, hreach, h⟩⟩
    · exact .inl ⟨part, w, .inner hj hreach, h⟩
    · exact .inr ⟨place, key, part, w, rfl, .inner hj hreach, h⟩

theorem reported_number {rules : NumberRules} {j : Json} :
    Reported (rules.issues [] j) path code ↔ path = [] ∧ Violates (.number rules) j code := by
  cases j with
  | num n =>
    have hviolates : Violates (.number rules) (.num n) code ↔
        (rules.integer = true ∧ n.toDouble.isWhole = false) ∧ code = .notInteger ∨
        (∃ low, rules.minimum = some low ∧ n.toDouble < low) ∧ code = .tooSmall ∨
        (∃ high, rules.maximum = some high ∧ high < n.toDouble) ∧ code = .tooLarge := by
      constructor
      · intro h
        cases h with
        | type hname hj =>
          cases hname
          exact absurd rfl hj
        | notInteger hinteger hn => exact .inl ⟨⟨hinteger, hn⟩, rfl⟩
        | tooSmall hlow hn => exact .inr (.inl ⟨⟨_, hlow, hn⟩, rfl⟩)
        | tooLarge hhigh hn => exact .inr (.inr ⟨⟨_, hhigh, hn⟩, rfl⟩)
      · rintro (⟨⟨hinteger, hn⟩, rfl⟩ | ⟨⟨low, hlow, hn⟩, rfl⟩ | ⟨⟨high, hhigh, hn⟩, rfl⟩)
        · exact .notInteger hinteger hn
        · exact .tooSmall hlow hn
        · exact .tooLarge hhigh hn
    rw [hviolates, NumberRules.issues]
    cases rules.minimum <;> cases rules.maximum <;> simp [and_left_comm, and_or_left]
  | _ =>
    rw [violates_of_wrongType rfl (by simp [Json.kindName])]
    exact reported_wrongType

theorem reported_string {rules : StringRules} {j : Json} :
    Reported (rules.issues [] j) path code ↔ path = [] ∧ Violates (.string rules) j code := by
  cases j with
  | str s =>
    have hviolates : Violates (.string rules) (.str s) code ↔
        (∃ format, rules.format = some format ∧ format.accepts s = false) ∧
          code = .invalidFormat ∨
        (∃ low, rules.minLength = some low ∧ s.length < low) ∧ code = .tooShort ∨
        (∃ high, rules.maxLength = some high ∧ high < s.length) ∧ code = .tooLong ∨
        (∃ pattern, rules.pattern = some pattern ∧ pattern.occursIn s = false) ∧
          code = .patternMismatch := by
      constructor
      · intro h
        cases h with
        | type hname hj =>
          cases hname
          exact absurd rfl hj
        | format hformat hs => exact .inl ⟨⟨_, hformat, hs⟩, rfl⟩
        | tooShort hlow hs => exact .inr (.inl ⟨⟨_, hlow, hs⟩, rfl⟩)
        | tooLong hhigh hs => exact .inr (.inr (.inl ⟨⟨_, hhigh, hs⟩, rfl⟩))
        | pattern hpattern hs => exact .inr (.inr (.inr ⟨⟨_, hpattern, hs⟩, rfl⟩))
      · rintro (⟨⟨format, hformat, hs⟩, rfl⟩ | ⟨⟨low, hlow, hs⟩, rfl⟩ | ⟨⟨high, hhigh, hs⟩, rfl⟩ |
          ⟨⟨pattern, hpattern, hs⟩, rfl⟩)
        · exact .format hformat hs
        · exact .tooShort hlow hs
        · exact .tooLong hhigh hs
        · exact .pattern hpattern hs
    rw [hviolates, StringRules.issues]
    cases rules.format <;> cases rules.minLength <;> cases rules.maxLength <;>
      cases rules.pattern <;> simp [and_left_comm, and_or_left]
  | _ =>
    rw [violates_of_wrongType rfl (by simp [Json.kindName])]
    exact reported_wrongType

theorem reported_listed {shape : Shape} {options : List String} {message : String → String}
    {j : Json} (hname : shape.typeName? = some "string")
    (hshape : ∀ s, Violates shape (.str s) code ↔ s ∉ options ∧ code = .invalidValue) :
    Reported (listedIssues options [] message j) path code ↔
      path = [] ∧ Violates shape j code := by
  cases j with
  | str s =>
    rw [hshape, listedIssues]
    simp [and_left_comm]
  | _ =>
    rw [violates_of_wrongType hname (by simp [Json.kindName])]
    exact reported_wrongType

theorem violates_literal {text s : String} :
    Violates (.literal text) (.str s) code ↔ s ∉ [text] ∧ code = .invalidValue := by
  constructor
  · intro h
    cases h with
    | type hname hj =>
      cases hname
      exact absurd rfl hj
    | literal hs => exact ⟨by simpa using hs, rfl⟩
  · rintro ⟨hs, rfl⟩
    exact .literal (by simpa using hs)

theorem violates_oneOf {options : List String} {s : String} :
    Violates (.oneOf options) (.str s) code ↔ s ∉ options ∧ code = .invalidValue := by
  constructor
  · intro h
    cases h with
    | type hname hj =>
      cases hname
      exact absurd rfl hj
    | oneOf hs => exact ⟨hs, rfl⟩
  · rintro ⟨hs, rfl⟩
    exact .oneOf hs

theorem reported_unknownKeyIssues {fields : List (String × ShapeField)}
    {members : List (String × Json)} :
    Reported (unknownKeyIssues fields [] members) path code ↔ ∃ key, path = [.key key] ∧
      KeyMap.contains members key = true ∧ KeyMap.contains fields key = false ∧
      code = .unknownKey := by
  rw [unknownKeyIssues, reported_flatMap]
  constructor
  · rintro ⟨⟨key, w⟩, hmember, h⟩
    obtain ⟨hundeclared, hpath, hcode⟩ := reported_issueIf.mp h
    rw [Bool.not_eq_true'] at hundeclared
    exact ⟨key, hpath, KeyMap.contains_iff.mpr ⟨w, hmember⟩, hundeclared, hcode⟩
  · rintro ⟨key, hpath, hpresent, hundeclared, hcode⟩
    obtain ⟨w, hmember⟩ := KeyMap.contains_iff.mp hpresent
    refine ⟨(key, w), hmember, reported_issueIf.mpr ⟨?_, hpath, hcode⟩⟩
    rw [hundeclared]
    rfl

theorem failsAtKey_object {fields : List (String × ShapeField)} {unknownKeys : UnknownKeys}
    {members : List (String × Json)} {key : String} :
    FailsAtKey (.object ⟨fields, unknownKeys⟩) (.obj members) key code ↔
      (∃ field, (key, field) ∈ fields ∧ field.isOptional = false ∧
        KeyMap.contains members key = false ∧ code = .missingKey) ∨
      (unknownKeys = .reject ∧ KeyMap.contains members key = true ∧
        KeyMap.contains fields key = false ∧ code = .unknownKey) := by
  constructor
  · intro h
    cases h with
    | missing hfield hrequired habsent => exact .inl ⟨_, hfield, hrequired, habsent, rfl⟩
    | unknown hpresent hundeclared => exact .inr ⟨rfl, hpresent, hundeclared, rfl⟩
  · rintro (⟨field, hfield, hrequired, habsent, rfl⟩ | ⟨rfl, hpresent, hundeclared, rfl⟩)
    · exact .missing hfield hrequired habsent
    · exact .unknown hpresent hundeclared

theorem reported_keyIssues {members : List (String × Json)} {key : String} {field : ShapeField} :
    Reported (keyIssues [] members key field) path code ↔
      (∃ e rest, KeyMap.find? key members = some e ∧ path = .key key :: rest ∧
        Reported (issues [] field.shape e) rest code) ∨
      (field.isOptional = false ∧ KeyMap.contains members key = false ∧ path = [.key key] ∧
        code = .missingKey) := by
  unfold keyIssues KeyMap.contains
  cases KeyMap.find? key members with
  | some e =>
    dsimp only
    rw [issues_eq_map_under, reported_under]
    simp
  | none => simp

/-- A report holds an issue with a path and a code exactly if the code names what is amiss there. -/
theorem reported_iff_isAmiss (shape : Shape) (j : Json) :
    Reported (issues [] shape j) path code ↔ IsAmiss shape j path code := by
  induction shape using Shape.induction generalizing j path with
  | anyObject =>
    rw [isAmiss_bare (.inl rfl) rfl]
    cases j <;> simp [issues, Json.kindName]
  | null =>
    rw [isAmiss_bare (.inr (.inl rfl)) rfl]
    cases j <;> simp [issues, Json.isNull, Json.kindName]
  | boolean =>
    rw [isAmiss_bare (.inr (.inr rfl)) rfl]
    cases j <;> simp [issues, Json.kindName]
  | number rules =>
    rw [isAmiss_atom (.number rules) trivial, ← reported_number]
    rfl
  | string rules =>
    rw [isAmiss_atom (.string rules) trivial, ← reported_string]
    rfl
  | literal text =>
    rw [isAmiss_atom (.literal text) trivial, ← reported_listed rfl fun s => violates_literal]
    rfl
  | oneOf options =>
    rw [isAmiss_atom (.oneOf options) trivial, ← reported_listed rfl fun s => violates_oneOf]
    rfl
  | array items ih =>
    cases j with
    | arr elements =>
      rw [isAmiss_array]
      simp only [← ih]
      constructor
      · rintro ⟨issue, hissue, rfl, rfl⟩
        obtain ⟨n, e, he, hissue⟩ := mem_elementIssues.mp hissue
        rw [issues_eq_map_under] at hissue
        obtain ⟨part, hpart, rfl⟩ := List.mem_map.mp hissue
        rw [Nat.zero_add]
        exact ⟨n, e, part.path, he, rfl, part, hpart, rfl, rfl⟩
      · rintro ⟨n, e, rest, he, rfl, issue, hissue, rfl, rfl⟩
        refine ⟨issue.under [.index n], mem_elementIssues.mpr ⟨n, e, he, ?_⟩, rfl, rfl⟩
        rw [Nat.zero_add, issues_eq_map_under]
        exact List.mem_map_of_mem hissue
    | _ => exact reported_wrongType.trans (isAmiss_wrongType rfl (by simp [Json.kindName])).symm
  | object fields unknownKeys ih =>
    cases j with
    | obj members =>
      have hunknown : Reported (if unknownKeys = .reject then unknownKeyIssues fields [] members
          else []) path code ↔ ∃ key, path = [.key key] ∧ unknownKeys = .reject ∧
            KeyMap.contains members key = true ∧ KeyMap.contains fields key = false ∧
            code = .unknownKey := by
        cases unknownKeys <;> simp [reported_unknownKeyIssues]
      rw [isAmiss_object, issues, reported_append, fieldIssues_eq, reported_flatMap, hunknown]
      simp only [reported_keyIssues, failsAtKey_object]
      constructor
      · rintro (⟨⟨key, field⟩, hfield, h | h⟩ | ⟨key, hpath, h⟩)
        · obtain ⟨e, rest, he, hpath, h⟩ := h
          exact .inl ⟨key, field, hfield, e, rest, he, hpath, (ih key field hfield e).mp h⟩
        · obtain ⟨hrequired, habsent, hpath, hcode⟩ := h
          exact .inr ⟨key, hpath, .inl ⟨field, hfield, hrequired, habsent, hcode⟩⟩
        · exact .inr ⟨key, hpath, .inr h⟩
      · rintro (⟨key, field, hfield, e, rest, he, hpath, h⟩ | ⟨key, hpath, h | h⟩)
        · have hissue := (ih key field hfield e).mpr h
          exact .inl ⟨(key, field), hfield, .inl ⟨e, rest, he, hpath, hissue⟩⟩
        · obtain ⟨field, hfield, hrequired, habsent, hcode⟩ := h
          exact .inl ⟨(key, field), hfield, .inr ⟨hrequired, habsent, hpath, hcode⟩⟩
        · exact .inr ⟨key, hpath, h⟩
    | _ => exact reported_wrongType.trans (isAmiss_wrongType rfl (by simp [Json.kindName])).symm
  | nullable inner ih =>
    rw [isAmiss_nullable, ← ih]
    cases j <;> simp [issues, Json.isNull]

theorem Reaches.at?_eq {shape part : Shape} {j w : Json} (h : Reaches shape j path part w) :
    j.at? path = some w := by
  induction h with
  | here shape j => rfl
  | element he _ ih => rw [Json.at?, he, Option.bind_some, ih]
  | member _ he _ ih => rw [Json.at?, he, Option.bind_some, ih]
  | inner _ _ ih => exact ih

/-- Whatever is amiss is about a part of the value, unless that part is missing. -/
theorem IsAmiss.exists_at? {shape : Shape} {j : Json} (h : IsAmiss shape j path code)
    (hcode : code ≠ .missingKey) : ∃ w, j.at? path = some w := by
  rcases h with ⟨part, w, hreach, -⟩ | ⟨place, key, part, w, rfl, hreach, h⟩
  · exact ⟨w, hreach.at?_eq⟩
  · cases h with
    | missing => exact absurd rfl hcode
    | unknown hpresent =>
      obtain ⟨e, he⟩ := Option.isSome_iff_exists.mp hpresent
      rw [Json.at?_append, hreach.at?_eq]
      exact ⟨e, congrArg (·.bind (Json.at? [])) he⟩

theorem exists_arr_of_issue {shape : Shape} {j : Json} {issue : Issue} {i : Nat}
    (hissue : issue ∈ (shape.check j).issues) (hi : .index i ∈ issue.path) :
    ∃ place items, j.at? place = some (.arr items) ∧ i < items.length := by
  have hamiss := (reported_iff_isAmiss shape j).mp ⟨issue, hissue, rfl, rfl⟩
  rcases hamiss with ⟨part, w, hreach, -⟩ | ⟨place, key, part, w, hpath, hreach, -⟩
  · exact Json.exists_arr_of_index_mem hreach.at?_eq hi
  · rw [hpath, List.mem_append, List.mem_singleton] at hi
    rcases hi with hi | hi
    · exact Json.exists_arr_of_index_mem hreach.at?_eq hi
    · cases hi

end Shape
end RecordShape
