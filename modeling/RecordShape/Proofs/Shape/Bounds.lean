import RecordShape.Proofs.Decimal.Rounding
import RecordShape.Proofs.Shape.Violations

/-!
# Bounds of integers

Integers are compared with bounds after rounding to a double. Rounding passes no double and every
bound is one, so an integer that keeps a bound is never reported. One that breaks a bound may be
taken for the bound itself, but not up to `2 ^ 53`, where nothing is rounded.
-/

namespace RecordShape
namespace Shape
attribute [local instance (high)] instPowNat

/-- Something of this kind is reported about the value, which stands at the path. -/
def Raises (shape : Shape) (path : Path) (j : Json) (code : IssueCode) : Prop :=
  ∃ issue ∈ issues path shape j, issue.code = code

variable {rules : NumberRules} {path : Path} {n : Int} {low high : Double}

theorem raises_number_iff {j : Json} {code : IssueCode} :
    (number rules).Raises path j code ↔ Violates (number rules) j code := by
  have hreported : (number rules).Raises path j code ↔
      ∃ place, Reported (issues path (number rules) j) place code := by
    constructor
    · intro h
      obtain ⟨issue, hissue, hcode⟩ := h
      exact ⟨issue.path, issue, hissue, rfl, hcode⟩
    · intro h
      obtain ⟨place, issue, hissue, -, hcode⟩ := h
      exact ⟨issue, hissue, hcode⟩
  have hroot (rest : Path) : Reported (issues [] (number rules) j) rest code ↔
      rest = [] ∧ Violates (number rules) j code := reported_number
  rw [hreported, issues_eq_map_under]
  simp only [reported_under, hroot]
  constructor
  · intro h
    obtain ⟨place, rest, -, -, h⟩ := h
    exact h
  · intro h
    exact ⟨path ++ [], [], rfl, rfl, h⟩

theorem violates_tooSmall_iff {x : Number} :
    Violates (number rules) (.num x) .tooSmall ↔ ∃ low ∈ rules.minimum, x.toDouble < low := by
  constructor
  · intro h
    cases h with
    | tooSmall hlow hx => exact ⟨_, hlow, hx⟩
  · intro h
    obtain ⟨low, hlow, hx⟩ := h
    exact .tooSmall hlow hx

theorem violates_tooLarge_iff {x : Number} :
    Violates (number rules) (.num x) .tooLarge ↔ ∃ high ∈ rules.maximum, high < x.toDouble := by
  constructor
  · intro h
    cases h with
    | tooLarge hhigh hx => exact ⟨_, hhigh, hx⟩
  · intro h
    obtain ⟨high, hhigh, hx⟩ := h
    exact .tooLarge hhigh hx

theorem not_lt_of_le_integer (h : low.toRat ≤ n) : ¬Double.ofInt n < low := by
  have hscaled : low.scaled ≤ n * Double.one := Double.toRat_le_iff.mp h
  have hround : low ≤ Double.ofInt n := Double.le_iff.mpr (Double.scaled_le_ofInt hscaled)
  exact Double.not_lt.mpr hround

theorem not_lt_of_integer_le (h : (n : ℚ) ≤ high.toRat) : ¬high < Double.ofInt n := by
  have hscaled : n * Double.one ≤ high.scaled := Double.le_toRat_iff.mp h
  have hround : Double.ofInt n ≤ high := Double.le_iff.mpr (Double.ofInt_le_scaled hscaled)
  exact Double.not_lt.mpr hround

theorem integer_lt_iff (hn : n.natAbs ≤ 2 ^ (53 : Nat)) :
    Double.ofInt n < low ↔ (n : ℚ) < low.toRat := by
  rw [← not_le, Double.toRat_le_iff, ← Double.scaled_ofInt_of_le hn, not_le]
  exact Iff.rfl

theorem lt_integer_iff (hn : n.natAbs ≤ 2 ^ (53 : Nat)) :
    high < Double.ofInt n ↔ high.toRat < n := by
  rw [← not_le, Double.le_toRat_iff, ← Double.scaled_ofInt_of_le hn, not_le]
  exact Iff.rfl

/-- An integer is never reported as being no number or no integer, and never for a bound that it
keeps. Up to `2 ^ 53` it is reported for a bound exactly if it breaks that bound. -/
theorem integer_bounds_enforced (rules : NumberRules) (path : Path) (n : Int) :
    let raises := (number rules).Raises path (.num (.int n))
    ¬raises .notInteger ∧ ¬raises .invalidType ∧
    ((∀ low ∈ rules.minimum, low.toRat ≤ n) → ¬raises .tooSmall) ∧
    ((∀ high ∈ rules.maximum, n ≤ high.toRat) → ¬raises .tooLarge) ∧
    (n.natAbs ≤ 2 ^ (53 : Nat) →
      (raises .tooSmall ↔ ∃ low ∈ rules.minimum, n < low.toRat) ∧
      (raises .tooLarge ↔ ∃ high ∈ rules.maximum, high.toRat < n)) := by
  intro raises
  simp only [raises, raises_number_iff, violates_tooSmall_iff, violates_tooLarge_iff]
  refine ⟨?_, ?_, ?_, ?_, ?_⟩
  · intro h
    cases h with
    | notInteger hinteger hn =>
      rw [Number.toDouble, Double.isWhole_ofInt] at hn
      cases hn
  · intro h
    cases h with
    | type hname hj =>
      cases hname
      exact hj rfl
  · rintro hkeeps ⟨low, hlow, hlt⟩
    exact not_lt_of_le_integer (hkeeps low hlow) hlt
  · rintro hkeeps ⟨high, hhigh, hlt⟩
    exact not_lt_of_integer_le (hkeeps high hhigh) hlt
  · intro hn
    constructor
    · exact exists_congr fun low => and_congr_right fun _ => integer_lt_iff hn
    · exact exists_congr fun high => and_congr_right fun _ => lt_integer_iff hn

/-- Integers from `2 ^ 53` to `2 ^ 53 + 2`, of which the middle one is no double. -/
def limitRules : NumberRules where
  integer := true
  minimum := some ⟨false, 2 ^ (52 : Nat), 1075, by decide⟩
  maximum := some ⟨false, 2 ^ (52 : Nat) + 1, 1075, by decide⟩

/-- Between the bounds an integer is rounded to one of them and not reported, and the integer
below them is. -/
theorem integer_bounds_enforced_at_limit :
    let raises (n : Int) := (number limitRules).Raises [] (.num (.int n))
    ((∀ low ∈ limitRules.minimum, low.toRat ≤ (9007199254740993 : Int)) ∧
      ¬raises 9007199254740993 .tooSmall) ∧
    ((∀ high ∈ limitRules.maximum, ((9007199254740993 : Int) : ℚ) ≤ high.toRat) ∧
      ¬raises 9007199254740993 .tooLarge) ∧
    Int.natAbs 9007199254740991 ≤ 2 ^ (53 : Nat) ∧ raises 9007199254740991 .tooSmall := by
  obtain ⟨-, -, hlow, hhigh, -⟩ := integer_bounds_enforced limitRules [] 9007199254740993
  obtain ⟨-, -, -, -, hexact⟩ := integer_bounds_enforced limitRules [] 9007199254740991
  have hkeepsLow : ∀ low ∈ limitRules.minimum, low.toRat ≤ (9007199254740993 : Int) := by
    intro low hlow
    cases hlow
    exact Double.toRat_le_iff.mpr (by decide +kernel)
  have hkeepsHigh : ∀ high ∈ limitRules.maximum, ((9007199254740993 : Int) : ℚ) ≤ high.toRat := by
    intro high hhigh
    cases hhigh
    exact Double.le_toRat_iff.mpr (by decide +kernel)
  refine ⟨⟨hkeepsLow, hlow hkeepsLow⟩, ⟨hkeepsHigh, hhigh hkeepsHigh⟩, by decide, ?_⟩
  refine (hexact (by decide)).1.mpr ⟨_, rfl, lt_of_not_ge fun hle => ?_⟩
  exact absurd (Double.toRat_le_iff.mp hle) (by decide +kernel)

end Shape
end RecordShape
