import RecordShape.Decimal.Shortest

/-!
# Doubles with infinities

Numbers of settings: a finite double, an infinity, or no number at all.
-/

namespace RecordShape
attribute [local instance (high)] instPowNat

inductive ExtendedDouble where
  | finite (value : Double)
  | infinite (negative : Bool)
  | notANumber
  deriving DecidableEq, Inhabited

namespace ExtendedDouble

/-- The number that digits and an exponent of ten stand for; too great a number is infinite. The
place of the first digit settles this for numbers far from those that a double can be. -/
def ofDecimal (negative : Bool) (digits : Nat) (exponent : Int) : ExtendedDouble :=
  let place := ((Nat.toDigits 10 digits).length : Int) + exponent
  if digits = 0 ∨ place < -400 then finite { Double.zero with negative }
  else if 400 < place then infinite negative
  else
    match Double.ofDecimal? negative digits exponent with
    | some x => finite x
    | none => infinite negative

/-- The text of a number, which shows that it need not be whole. -/
def text : ExtendedDouble → String
  | finite x => DecimalLayout.pointed.write x
  | infinite negative => if negative then "-inf" else "inf"
  | notANumber => "NaN"

def isZero : ExtendedDouble → Bool
  | finite x => x.significand = 0
  | _ => false

/-- The nearest number from `0` to `2 ^ 64 - 1`. -/
def toSize : ExtendedDouble → Nat
  | finite x => min x.roundAway.toNat (2 ^ (64 : Nat) - 1)
  | infinite negative => if negative then 0 else 2 ^ (64 : Nat) - 1
  | notANumber => 0

end ExtendedDouble
end RecordShape
