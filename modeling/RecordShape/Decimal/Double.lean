/-!
# Finite binary64 numbers

A double is a sign, a significand and a shift. Its size is `significand * 2 ^ shift`, counted in
units of `2 ^ -1074`, the least positive double, so order, rounding and arithmetic are exact
computations on natural numbers. Zero has both signs.
-/

namespace RecordShape
-- Powers of natural numbers mean the same here whatever else is imported.
attribute [local instance (high)] instPowNat

/-- A finite number. Infinities and what is no number at all are not among the doubles here, since
no JSON text stands for them; `ExtendedDouble` has them. -/
structure Double where
  negative : Bool
  significand : Nat
  shift : Nat
  canonical :
    significand < 2 ^ (53 : Nat) ∧ (shift = 0 ∨ 2 ^ (52 : Nat) ≤ significand) ∧ shift ≤ 2045
  deriving DecidableEq

namespace Double

/-- How many units make one. -/
def one : Nat := 2 ^ (1074 : Nat)

def zero : Double := ⟨false, 0, 0, by decide⟩

/-- The greatest finite double of either sign. -/
def greatest (negative : Bool) : Double := ⟨negative, 2 ^ (53 : Nat) - 1, 2045, by decide⟩

instance : Inhabited Double := ⟨zero⟩

/-- The absolute value in units. -/
def units (x : Double) : Nat := x.significand * 2 ^ x.shift

/-- The value in units. Both zeros have the value `0`. -/
def scaled (x : Double) : Int := if x.negative then -(x.units : Int) else x.units

instance : LE Double := ⟨fun x y => x.scaled ≤ y.scaled⟩
instance : LT Double := ⟨fun x y => x.scaled < y.scaled⟩
instance (x y : Double) : Decidable (x ≤ y) := inferInstanceAs (Decidable (x.scaled ≤ y.scaled))
instance (x y : Double) : Decidable (x < y) := inferInstanceAs (Decidable (x.scaled < y.scaled))

theorem le_iff {x y : Double} : x ≤ y ↔ x.scaled ≤ y.scaled := Iff.rfl

theorem not_lt {x y : Double} : ¬x < y ↔ y ≤ x := Int.not_lt

/-- Equality of values, for which both zeros are the same. -/
def same (x y : Double) : Bool := x.scaled == y.scaled

def neg (x : Double) : Double := { x with negative := !x.negative }

private def ofParts? (negative : Bool) (significand shift : Nat) : Option Double :=
  if h : significand < 2 ^ (53 : Nat) ∧ (shift = 0 ∨ 2 ^ (52 : Nat) ≤ significand) ∧
      shift ≤ 2045 then
    some ⟨negative, significand, shift, h⟩
  else none

/-- The nearest natural number to `num / den`; a half goes to the even neighbour. -/
def roundHalfEven (num den : Nat) : Nat :=
  let q := num / den
  let r := num % den
  if den < 2 * r ∨ (2 * r = den ∧ q % 2 = 1) then q + 1 else q

/-- The double nearest to `num / den` units, a half going to the even significand. There is none
beyond the greatest double. -/
def round? (negative : Bool) (num den : Nat) : Option Double :=
  let shift := (num / den).log2 + 1 - 53
  let significand := roundHalfEven num (den * 2 ^ shift)
  if significand < 2 ^ (53 : Nat) then ofParts? negative significand shift
  else ofParts? negative (2 ^ (52 : Nat)) (shift + 1)

theorem le_roundHalfEven {k num den : Nat} (hden : 0 < den) (h : k * den ≤ num) :
    k ≤ roundHalfEven num den := by
  have hquot : k ≤ num / den := (Nat.le_div_iff_mul_le hden).mpr h
  unfold roundHalfEven
  dsimp only
  split <;> omega

theorem roundHalfEven_le {k num den : Nat} (hden : 0 < den) (h : num ≤ k * den) :
    roundHalfEven num den ≤ k := by
  have hsplit := Nat.div_add_mod num den
  have hquot : num / den ≤ k := Nat.div_le_of_le_mul (Nat.mul_comm k den ▸ h)
  unfold roundHalfEven
  dsimp only
  split
  · -- Rounding up means that something is left over, so `k` is beyond the quotient.
    rename_i hup
    have hrest : 0 < num % den := by omega
    have hne : num / den ≠ k := by
      intro heq
      rw [heq, Nat.mul_comm] at hsplit
      omega
    omega
  · exact hquot

private theorem roundHalfEven_mul (n : Nat) {den : Nat} (h : 0 < den) :
    roundHalfEven (n * den) den = n :=
  Nat.le_antisymm (roundHalfEven_le h (Nat.le_refl _)) (le_roundHalfEven h (Nat.le_refl _))

private theorem log2_units (x : Double) : x.units.log2 + 1 - 53 = x.shift := by
  obtain ⟨negative, significand, shift, hlt, hshift, -⟩ := x
  rw [units]
  dsimp only
  by_cases hzero : significand = 0
  · have hnil : shift = 0 := by
      rcases hshift with h | h
      · exact h
      · simp [hzero] at h
    simp [hzero, hnil]
  have hne : significand * 2 ^ shift ≠ 0 :=
    Nat.mul_ne_zero hzero (Nat.ne_of_gt (Nat.two_pow_pos shift))
  rcases hshift with rfl | hle
  · have hlog : (significand * 2 ^ 0).log2 < 53 := by
      rw [Nat.log2_lt hne, Nat.pow_zero, Nat.mul_one]
      exact hlt
    omega
  · have hlog : (significand * 2 ^ shift).log2 = 52 + shift := by
      rw [Nat.log2_eq_iff hne, Nat.pow_add, Nat.add_right_comm, Nat.pow_add]
      exact ⟨Nat.mul_le_mul_right _ hle, Nat.mul_lt_mul_of_pos_right hlt (Nat.two_pow_pos shift)⟩
    omega

/-- Rounding gives back a double from its units. -/
theorem round?_units (x : Double) (negative : Bool) :
    round? negative x.units 1 = some { x with negative } := by
  have hround : roundHalfEven x.units (1 * 2 ^ x.shift) = x.significand := by
    rw [Nat.one_mul]
    exact roundHalfEven_mul x.significand (Nat.two_pow_pos x.shift)
  unfold round?
  rw [Nat.div_one, log2_units]
  dsimp only
  rw [hround, if_pos x.canonical.1, ofParts?, dif_pos x.canonical]

/-- The place at which `num / den` units are rounded: what is above it has 53 digits at most. -/
def roundingShift (num den : Nat) : Nat := (num / den).log2 + 1 - 53

/-- What `num / den` units are rounded to, in units, whether or not that is in range. -/
def roundedUnits (num den : Nat) : Nat :=
  roundHalfEven num (den * 2 ^ roundingShift num den) * 2 ^ roundingShift num den

section
variable {negative : Bool} {num den significand shift : Nat} {x : Double}

theorem lt_of_roundingShift (num : Nat) (hden : 0 < den) :
    num < 2 ^ (53 : Nat) * (den * 2 ^ roundingShift num den) := by
  have hquot : num / den < 2 ^ (53 + roundingShift num den) := by
    refine Nat.lt_of_lt_of_le Nat.lt_log2_self (Nat.pow_le_pow_right (by decide) ?_)
    unfold roundingShift
    omega
  have hnum := (Nat.div_lt_iff_lt_mul hden).mp hquot
  rwa [Nat.pow_add, Nat.mul_assoc, Nat.mul_comm (2 ^ roundingShift num den) den] at hnum

theorem le_of_roundingShift_pos (hden : 0 < den) (hpos : 0 < roundingShift num den) :
    2 ^ (52 : Nat) * (den * 2 ^ roundingShift num den) ≤ num := by
  unfold roundingShift at hpos
  have hne : num / den ≠ 0 := by
    intro hzero
    rw [hzero, Nat.log2_zero] at hpos
    omega
  have hplace : 52 + roundingShift num den = (num / den).log2 := by
    unfold roundingShift
    omega
  have hquot : 2 ^ (52 + roundingShift num den) ≤ num / den := hplace ▸ Nat.log2_self_le hne
  have hnum := (Nat.le_div_iff_mul_le hden).mp hquot
  rwa [Nat.pow_add, Nat.mul_assoc, Nat.mul_comm (2 ^ roundingShift num den) den] at hnum

theorem units_lt_of_shift_le (h : x.shift ≤ shift) : x.units < 2 ^ (53 : Nat) * 2 ^ shift :=
  Nat.mul_lt_mul_of_lt_of_le x.canonical.1 (Nat.pow_le_pow_right (by decide) h)
    (Nat.two_pow_pos _)

theorem half_two_pow_succ (k : Nat) : 2 ^ (52 : Nat) * 2 ^ (k + 1) = 2 ^ (53 : Nat) * 2 ^ k := by
  have hnext : 2 ^ (k + 1) = 2 * 2 ^ k := Nat.pow_succ'
  rw [hnext, ← Nat.mul_assoc]

theorem units_lt_of_shift_lt (h : x.shift < shift) : x.units < 2 ^ (52 : Nat) * 2 ^ shift := by
  obtain ⟨k, rfl⟩ : ∃ k, shift = k + 1 := ⟨shift - 1, by omega⟩
  rw [half_two_pow_succ]
  exact units_lt_of_shift_le (Nat.le_of_lt_succ h)

private theorem eq_of_ofParts? (h : ofParts? negative significand shift = some x) :
    x.negative = negative ∧ x.units = significand * 2 ^ shift := by
  unfold ofParts? at h
  split at h
  · cases h
    exact ⟨rfl, rfl⟩
  · cases h

private theorem shift_of_ofParts? (h : ofParts? negative significand shift = none)
    (hlt : significand < 2 ^ (53 : Nat)) (hplace : 0 < shift → 2 ^ (52 : Nat) ≤ significand) :
    2045 < shift := by
  unfold ofParts? at h
  split at h
  · cases h
  · rename_i hnot
    have hplace' : shift = 0 ∨ 2 ^ (52 : Nat) ≤ significand := by omega
    by_cases hshift : shift ≤ 2045
    · exact absurd ⟨hlt, hplace', hshift⟩ hnot
    · omega

private theorem round?_eq (negative : Bool) (num den : Nat) :
    round? negative num den =
      if roundHalfEven num (den * 2 ^ roundingShift num den) < 2 ^ (53 : Nat) then
        ofParts? negative (roundHalfEven num (den * 2 ^ roundingShift num den))
          (roundingShift num den)
      else ofParts? negative (2 ^ (52 : Nat)) (roundingShift num den + 1) := rfl

private theorem significand_le (num : Nat) (hden : 0 < den) :
    roundHalfEven num (den * 2 ^ roundingShift num den) ≤ 2 ^ (53 : Nat) :=
  roundHalfEven_le (Nat.mul_pos hden (Nat.two_pow_pos _))
    (Nat.le_of_lt (lt_of_roundingShift num hden))

theorem units_of_round? (hden : 0 < den) (h : round? negative num den = some x) :
    x.negative = negative ∧ x.units = roundedUnits num den := by
  have hle := significand_le num hden
  rw [round?_eq] at h
  unfold roundedUnits
  split at h
  · exact eq_of_ofParts? h
  · rename_i hcarry
    obtain ⟨hsign, hunits⟩ := eq_of_ofParts? h
    have hfull : roundHalfEven num (den * 2 ^ roundingShift num den) = 2 ^ (53 : Nat) := by omega
    refine ⟨hsign, ?_⟩
    rw [hunits, hfull, half_two_pow_succ]

theorem units_lt_of_round?_eq_none (hden : 0 < den) (h : round? negative num den = none)
    (x : Double) : x.units < roundedUnits num den := by
  have hplace (hpos : 0 < roundingShift num den) :
      2 ^ (52 : Nat) ≤ roundHalfEven num (den * 2 ^ roundingShift num den) :=
    le_roundHalfEven (Nat.mul_pos hden (Nat.two_pow_pos _)) (le_of_roundingShift_pos hden hpos)
  have hmax := x.canonical.2.2
  rw [round?_eq] at h
  unfold roundedUnits
  split at h
  · rename_i hlt
    have hshift := shift_of_ofParts? h hlt hplace
    have hbelow : x.shift < roundingShift num den := by omega
    refine Nat.lt_of_lt_of_le (units_lt_of_shift_lt hbelow) ?_
    exact Nat.mul_le_mul_right _ (hplace (by omega))
  · rename_i hcarry
    have hshift := shift_of_ofParts? h (by decide) fun _ => Nat.le_refl _
    have hbelow : x.shift ≤ roundingShift num den := by omega
    refine Nat.lt_of_lt_of_le (units_lt_of_shift_le hbelow) ?_
    exact Nat.mul_le_mul_right _ (Nat.le_of_not_lt hcarry)

end

/-- The double nearest to an integer; integers beyond the finite range go to its end. -/
def ofInt (n : Int) : Double :=
  (round? (n < 0) (n.natAbs * one) 1).getD (greatest (n < 0))

/-- The double nearest to `(-1) ^ negative * digits * 10 ^ exponent`. -/
def ofDecimal? (negative : Bool) (digits : Nat) (exponent : Int) : Option Double :=
  if 0 ≤ exponent then round? negative (digits * 10 ^ exponent.toNat * one) 1
  else round? negative (digits * one) (10 ^ (-exponent).toNat)

/-- The rounded product. -/
def mul? (x y : Double) : Option Double :=
  round? (x.negative != y.negative) (x.units * y.units) one

/-- The rounded quotient. -/
def div? (x y : Double) : Option Double :=
  round? (x.negative != y.negative) (x.units * one) y.units

/-- No fractional part. -/
def isWhole (x : Double) : Bool := x.units % one == 0

/-- The integer part, toward zero. -/
def truncate (x : Double) : Int :=
  if x.negative then -(x.units / one : Nat) else (x.units / one : Nat)

/-- A whole double is the double nearest to its integer part, up to the sign of zero. -/
theorem scaled_ofInt_truncate {x : Double} (h : x.isWhole = true) :
    (ofInt x.truncate).scaled = x.scaled := by
  have hmod : x.units % one = 0 := by simpa [isWhole] using h
  have hunits : x.units / one * one = x.units := Nat.div_mul_cancel (Nat.dvd_of_mod_eq_zero hmod)
  have habs : x.truncate.natAbs = x.units / one := by
    unfold truncate
    generalize x.units / one = whole
    cases x.negative <;> simp
  have hround : ofInt x.truncate = { x with negative := decide (x.truncate < 0) } := by
    rw [ofInt, habs, hunits, round?_units, Option.getD_some]
  have hsame : ({ x with negative := decide (x.truncate < 0) } : Double).units = x.units := rfl
  rw [hround, scaled, scaled, hsame]
  by_cases hzero : x.units = 0
  · simp [hzero]
  have hpos : x.units / one ≠ 0 := fun hdiv => hzero (by rw [← hunits, hdiv, Nat.zero_mul])
  have hsign : decide (x.truncate < 0) = x.negative := by
    unfold truncate
    generalize x.units / one = whole at hpos ⊢
    cases x.negative
    · simp
    · simp only [if_true, decide_eq_true_eq]
      omega
  rw [hsign]

/-- The nearest integer, a half going away from zero. -/
def roundAway (x : Double) : Int :=
  let n : Nat := (2 * x.units + one) / (2 * one)
  if x.negative then -(n : Int) else n

end Double
end RecordShape
