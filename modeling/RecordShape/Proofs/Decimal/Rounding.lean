import Mathlib.Algebra.Order.Field.Basic
import Mathlib.Data.Rat.Cast.Order
import RecordShape.Decimal.Double

/-!
# Rounding passes no double

A number that is not below a double is not rounded to a lesser one, and a number that is not above
it is not rounded to a greater one. So the order of an integer and a double can be told from the
rounded integer in one direction, and in both where the integer is a double itself, as all are up
to `2 ^ 53`. However far it is rounded, an integer stays one.
-/

namespace RecordShape
namespace Double
attribute [local instance (high)] instPowNat

/-- The value. -/
def toRat (x : Double) : ℚ := x.scaled / one

variable {x : Double} {num den : Nat} {n : Int}

theorem one_pos : 0 < one := by
  unfold one
  exact Nat.two_pow_pos 1074

theorem toRat_le_iff : x.toRat ≤ n ↔ x.scaled ≤ n * one := by
  have hone : (0 : ℚ) < (one : Nat) := Nat.cast_pos.mpr one_pos
  unfold toRat
  rw [div_le_iff₀ hone]
  exact_mod_cast Iff.rfl

theorem le_toRat_iff : (n : ℚ) ≤ x.toRat ↔ n * one ≤ x.scaled := by
  have hone : (0 : ℚ) < (one : Nat) := Nat.cast_pos.mpr one_pos
  unfold toRat
  rw [le_div_iff₀ hone]
  exact_mod_cast Iff.rfl

theorem exists_units_eq {place : Nat} (h : place ≤ x.shift) : ∃ k, x.units = k * 2 ^ place := by
  refine ⟨x.significand * 2 ^ (x.shift - place), ?_⟩
  rw [units, Nat.mul_assoc, ← Nat.pow_add, Nat.sub_add_cancel h]

theorem units_le_roundedUnits (hden : 0 < den) (h : x.units * den ≤ num) :
    x.units ≤ roundedUnits num den := by
  have hplace : 0 < den * 2 ^ roundingShift num den := Nat.mul_pos hden (Nat.two_pow_pos _)
  unfold roundedUnits
  by_cases hshift : roundingShift num den ≤ x.shift
  · obtain ⟨k, hk⟩ := exists_units_eq hshift
    rw [hk, Nat.mul_assoc, Nat.mul_comm (2 ^ _) den] at h
    rw [hk]
    exact Nat.mul_le_mul_right _ (le_roundHalfEven hplace h)
  · -- A double with digits further down is less than what has 53 digits above the place.
    have hbelow : x.shift < roundingShift num den := by omega
    have hlead := le_roundHalfEven hplace (le_of_roundingShift_pos hden (by omega))
    have hunits := units_lt_of_shift_lt hbelow
    exact hunits.le.trans (Nat.mul_le_mul_right _ hlead)

theorem roundedUnits_le_units (hden : 0 < den) (h : num ≤ x.units * den) :
    roundedUnits num den ≤ x.units := by
  have hplace : 0 < den * 2 ^ roundingShift num den := Nat.mul_pos hden (Nat.two_pow_pos _)
  unfold roundedUnits
  by_cases hshift : roundingShift num den ≤ x.shift
  · obtain ⟨k, hk⟩ := exists_units_eq hshift
    rw [hk, Nat.mul_assoc, Nat.mul_comm (2 ^ _) den] at h
    rw [hk]
    exact Nat.mul_le_mul_right _ (roundHalfEven_le hplace h)
  · have hbelow : x.shift < roundingShift num den := by omega
    have hlead := le_of_roundingShift_pos hden (by omega : 0 < roundingShift num den)
    have hunits := Nat.mul_lt_mul_of_pos_right (units_lt_of_shift_lt hbelow) hden
    rw [Nat.mul_assoc, Nat.mul_comm (2 ^ _) den] at hunits
    omega

theorem units_le_greatest (x : Double) (negative : Bool) : x.units ≤ (greatest negative).units := by
  have hlt := x.canonical.1
  exact Nat.mul_le_mul (Nat.le_sub_one_of_lt hlt) (Nat.pow_le_pow_right (by decide) x.canonical.2.2)

theorem negative_ofInt (n : Int) : (ofInt n).negative = decide (n < 0) := by
  unfold ofInt
  cases hround : round? (n < 0) (n.natAbs * one) 1 with
  | none => rfl
  | some y => exact (units_of_round? Nat.one_pos hround).1

theorem units_le_ofInt (h : x.units ≤ n.natAbs * one) : x.units ≤ (ofInt n).units := by
  unfold ofInt
  cases hround : round? (n < 0) (n.natAbs * one) 1 with
  | none => exact units_le_greatest x _
  | some y =>
    rw [Option.getD_some, (units_of_round? Nat.one_pos hround).2]
    apply units_le_roundedUnits Nat.one_pos
    rwa [Nat.mul_one]

theorem ofInt_le_units (h : n.natAbs * one ≤ x.units) : (ofInt n).units ≤ x.units := by
  have hround : roundedUnits (n.natAbs * one) 1 ≤ x.units := by
    apply roundedUnits_le_units Nat.one_pos
    rwa [Nat.mul_one]
  unfold ofInt
  cases hy : round? (n < 0) (n.natAbs * one) 1 with
  | none =>
    have hlt := units_lt_of_round?_eq_none Nat.one_pos hy x
    omega
  | some y => rwa [Option.getD_some, (units_of_round? Nat.one_pos hy).2]

theorem scaled_eq_or (x : Double) : x.scaled = -(x.units : Int) ∨ x.scaled = x.units := by
  unfold scaled
  split
  · exact .inl rfl
  · exact .inr rfl

theorem scaled_ofInt_of_neg (hn : n < 0) : (ofInt n).scaled = -((ofInt n).units : Int) := by
  rw [scaled, negative_ofInt, if_pos (decide_eq_true hn)]

theorem scaled_ofInt_of_nonneg (hn : 0 ≤ n) : (ofInt n).scaled = (ofInt n).units := by
  have hnot : ¬decide (n < 0) = true := by simpa using hn
  rw [scaled, negative_ofInt, if_neg hnot]

private theorem mul_one_of_neg (hn : n < 0) : n * one = -((n.natAbs * one : Nat) : Int) := by
  have habs : (n.natAbs : Int) = -n := by omega
  rw [Nat.cast_mul, habs, neg_mul, neg_neg]

private theorem mul_one_of_nonneg (hn : 0 ≤ n) : n * one = ((n.natAbs * one : Nat) : Int) := by
  have habs : (n.natAbs : Int) = n := by omega
  rw [Nat.cast_mul, habs]

/-- An integer is not rounded down past a double. -/
theorem scaled_le_ofInt (h : x.scaled ≤ n * one) : x.scaled ≤ (ofInt n).scaled := by
  have hx := x.scaled_eq_or
  by_cases hn : n < 0
  · rw [mul_one_of_neg hn] at h
    have hround : (ofInt n).units ≤ x.units := ofInt_le_units (by omega)
    rw [scaled_ofInt_of_neg hn]
    omega
  · have hn : 0 ≤ n := by omega
    rw [mul_one_of_nonneg hn] at h
    rw [scaled_ofInt_of_nonneg hn]
    by_cases hpos : 0 ≤ x.scaled
    · have hround : x.units ≤ (ofInt n).units := units_le_ofInt (by omega)
      omega
    · omega

/-- An integer is not rounded up past a double. -/
theorem ofInt_le_scaled (h : n * one ≤ x.scaled) : (ofInt n).scaled ≤ x.scaled := by
  have hx := x.scaled_eq_or
  by_cases hn : n < 0
  · rw [mul_one_of_neg hn] at h
    rw [scaled_ofInt_of_neg hn]
    by_cases hneg : x.scaled ≤ 0
    · have hround : x.units ≤ (ofInt n).units := units_le_ofInt (by omega)
      omega
    · omega
  · have hn : 0 ≤ n := by omega
    rw [mul_one_of_nonneg hn] at h
    have hround : (ofInt n).units ≤ x.units := ofInt_le_units (by omega)
    rw [scaled_ofInt_of_nonneg hn]
    omega

theorem exists_units_of_le {a : Nat} (ha : a ≤ 2 ^ (53 : Nat)) (place : Nat) (hlow : 52 ≤ place)
    (hhigh : place < 2045) : ∃ x : Double, x.units = a * 2 ^ place := by
  by_cases hzero : a = 0
  · exact ⟨zero, by rw [hzero, Nat.zero_mul]; rfl⟩
  by_cases hfull : a = 2 ^ (53 : Nat)
  · refine ⟨⟨false, 2 ^ (52 : Nat), place + 1, by decide, .inr (Nat.le_refl _), hhigh⟩, ?_⟩
    rw [hfull]
    exact half_two_pow_succ place
  -- The leading digit of the number goes to the leading place of the significand.
  have hlog : a.log2 < 53 := (Nat.log2_lt hzero).mpr (by omega)
  have hfirst : 2 ^ a.log2 ≤ a := Nat.log2_self_le hzero
  have hnext : a < 2 ^ (a.log2 + 1) := Nat.lt_log2_self
  have hup := Nat.two_pow_pos (52 - a.log2)
  have hlead : 2 ^ (52 : Nat) ≤ a * 2 ^ (52 - a.log2) := by
    have h := Nat.mul_le_mul_right (2 ^ (52 - a.log2)) hfirst
    rwa [← Nat.pow_add, Nat.add_sub_cancel' (by omega)] at h
  have hlt : a * 2 ^ (52 - a.log2) < 2 ^ (53 : Nat) := by
    have h := Nat.mul_lt_mul_of_pos_right hnext hup
    have hsum : a.log2 + 1 + (52 - a.log2) = 53 := by omega
    rwa [← Nat.pow_add, hsum] at h
  have hplace : 52 - a.log2 + (place - (52 - a.log2)) = place := by omega
  refine ⟨⟨false, a * 2 ^ (52 - a.log2), place - (52 - a.log2), hlt, .inr hlead, by omega⟩, ?_⟩
  rw [units, Nat.mul_assoc, ← Nat.pow_add, hplace]

/-- Up to `2 ^ 53` rounding changes nothing. -/
theorem units_ofInt_of_le (hn : n.natAbs ≤ 2 ^ (53 : Nat)) : (ofInt n).units = n.natAbs * one := by
  obtain ⟨x, hx⟩ : ∃ x : Double, x.units = n.natAbs * one := by
    unfold one
    exact exists_units_of_le hn 1074 (by decide) (by decide)
  rw [← hx]
  exact Nat.le_antisymm (ofInt_le_units hx.ge) (units_le_ofInt hx.le)

theorem scaled_ofInt_of_le (hn : n.natAbs ≤ 2 ^ (53 : Nat)) : (ofInt n).scaled = n * one := by
  have hunits := units_ofInt_of_le hn
  by_cases hneg : n < 0
  · rw [scaled_ofInt_of_neg hneg, mul_one_of_neg hneg, hunits]
  · have hpos : 0 ≤ n := by omega
    rw [scaled_ofInt_of_nonneg hpos, mul_one_of_nonneg hpos, hunits]

private theorem le_roundingShift_of_lt {a place : Nat} (ha : 2 ^ (53 : Nat) < a) :
    place ≤ roundingShift (a * 2 ^ place) 1 := by
  have hpow : 2 ^ (53 + place) ≤ a * 2 ^ place := by
    rw [Nat.pow_add]
    exact Nat.mul_le_mul_right _ ha.le
  have hne : a * 2 ^ place ≠ 0 := Nat.mul_ne_zero (by omega) (Nat.two_pow_pos place).ne'
  have hlog := (Nat.le_log2 hne).mpr hpow
  rw [roundingShift, Nat.div_one]
  omega

private theorem one_dvd_of_le {place : Nat} (h : 1074 ≤ place) (a : Nat) : one ∣ a * 2 ^ place := by
  unfold one
  exact Nat.dvd_mul_left_of_dvd (Nat.pow_dvd_pow 2 h) a

private theorem one_dvd_units (h : 1074 ≤ x.shift) : one ∣ x.units := one_dvd_of_le h x.significand

theorem isWhole_ofInt (n : Int) : (ofInt n).isWhole = true := by
  have hdvd : one ∣ (ofInt n).units := by
    by_cases hn : n.natAbs ≤ 2 ^ (53 : Nat)
    · rw [units_ofInt_of_le hn]
      exact Nat.dvd_mul_left _ _
    unfold ofInt
    cases hround : round? (n < 0) (n.natAbs * one) 1 with
    | none => exact one_dvd_units (x := greatest (n < 0)) (by decide : 1074 ≤ 2045)
    | some y =>
      rw [Option.getD_some, (units_of_round? Nat.one_pos hround).2]
      have hshift : 1074 ≤ roundingShift (n.natAbs * one) 1 := by
        unfold one
        exact le_roundingShift_of_lt (by omega)
      exact one_dvd_of_le hshift _
  rw [isWhole, Nat.mod_eq_zero_of_dvd hdvd]
  rfl

end Double
end RecordShape
