import RecordShape.Decimal.Double

/-!
# The shortest decimal that reads back

Among the decimals that round to a given double, `Double.shortest` takes one with the fewest
digits, and of those the nearest; a tie goes to the even last digit. A layout says how such a
decimal is written.
-/

namespace RecordShape
attribute [local instance (high)] instPowNat

/-- The value `digits * 10 ^ exponent`. -/
structure Decimal where
  digits : Nat
  exponent : Int
  deriving DecidableEq, Repr

namespace Decimal

/-- Removes trailing zeros from the digits; `fuel` bounds their number. -/
def strip : Nat → Decimal → Decimal
  | 0, d => d
  | fuel + 1, d =>
    if d.digits ≠ 0 ∧ d.digits % 10 = 0 then strip fuel ⟨d.digits / 10, d.exponent + 1⟩ else d

end Decimal

namespace Double

/-- The place of the decimal point: `10 ^ (place - 1) ≤ |x| < 10 ^ place` for `x ≠ 0`. -/
def pointPlace (x : Double) : Int :=
  ((Nat.toDigits 10 (x.units * 10 ^ (400 : Nat) / one)).length : Int) - 400

/-- The nearest multiple of `10 ^ exponent` that rounds to `x`, if any does. The multiples next to
`x` on either side are the only ones to look at. -/
def onGrid? (x : Double) (exponent : Int) : Option Nat :=
  let up := 10 ^ (-exponent).toNat
  let den := 4 * one * 10 ^ exponent.toNat
  let ulp := 2 ^ x.shift
  let num := 4 * x.units * up
  let isLeast := x.significand = 2 ^ (52 : Nat) ∧ 0 < x.shift
  let low := (4 * x.units - (if isLeast then ulp else 2 * ulp)) * up
  let high := (4 * x.units + 2 * ulp) * up
  let hits (c : Nat) : Bool :=
    if x.significand % 2 = 0 then low ≤ c * den ∧ c * den ≤ high
    else low < c * den ∧ c * den < high
  let c := num / den
  match hits c, hits (c + 1) with
  | true, false => some c
  | false, true => some (c + 1)
  | false, false => none
  | true, true =>
    let below := num - c * den
    let above := (c + 1) * den - num
    if below < above ∨ (below = above ∧ c % 2 = 0) then some c else some (c + 1)

private def search (x : Double) (place : Int) : Nat → Nat → Decimal
  | _, 0 => ⟨x.units, 0⟩
  | count, fuel + 1 =>
    let exponent := place - count
    match x.onGrid? exponent with
    | some digits => Decimal.strip 20 ⟨digits, exponent⟩
    | none => search x place (count + 1) fuel

/-- The shortest decimal that rounds to `|x|`. Seventeen digits always suffice. -/
def shortest (x : Double) : Decimal :=
  if x.significand = 0 then ⟨0, 0⟩ else search x x.pointPlace 1 17

end Double

/-- How a decimal is written: the range of point places that need no exponent (`none` for all),
and what follows the digits of a whole number. -/
structure DecimalLayout where
  positional : Option (Int × Int)
  whole : String

namespace DecimalLayout

/-- JSON text: an exponent below `1e-5` and from `1e16` on, and `.0` after whole numbers. -/
def json : DecimalLayout := ⟨some (-4, 16), ".0"⟩

/-- Messages: never an exponent, nothing after whole numbers. -/
def plain : DecimalLayout := ⟨none, ""⟩

/-- Never an exponent, `.0` after whole numbers. -/
def pointed : DecimalLayout := ⟨none, ".0"⟩

private def zeros (n : Nat) : String := String.ofList (List.replicate n '0')

private def positionalText (layout : DecimalLayout) (digits : List Char) (place : Int) : String :=
  let count : Int := digits.length
  if count ≤ place then String.ofList digits ++ zeros (place - count).toNat ++ layout.whole
  else if 0 < place then
    String.ofList (digits.take place.toNat) ++ "." ++ String.ofList (digits.drop place.toNat)
  else "0." ++ zeros (-place).toNat ++ String.ofList digits

private def scientificText (digits : List Char) (place : Int) : String :=
  let power := place - 1
  let mark := if power < 0 then "e-" else "e+"
  let tail := digits.drop 1
  String.ofList (digits.take 1) ++ (if tail.isEmpty then "" else "." ++ String.ofList tail) ++
    mark ++ toString power.natAbs

/-- The text of a double. -/
def write (layout : DecimalLayout) (x : Double) : String :=
  let decimal := x.shortest
  let digits := Nat.toDigits 10 decimal.digits
  let place : Int := digits.length + decimal.exponent
  let inside := match layout.positional with
    | none => true
    | some (low, high) => decide (low ≤ place ∧ place ≤ high)
  (if x.negative then "-" else "") ++
    if decimal.digits = 0 then "0" ++ layout.whole
    else if inside then layout.positionalText digits place
    else scientificText digits place

/-- A text made of digits, signs, points and exponent marks. -/
def IsNumeral (s : String) : Prop :=
  s.toList.all (fun c => c.isDigit || c ∈ ['-', '+', '.', 'e']) = true

instance (s : String) : Decidable (IsNumeral s) := inferInstanceAs (Decidable (_ = true))

theorem IsNumeral.append {s t : String} (hs : IsNumeral s) (ht : IsNumeral t) :
    IsNumeral (s ++ t) := by
  rw [IsNumeral, String.toList_append, List.all_append, hs, ht, Bool.and_self]

theorem IsNumeral.ite {s t : String} {p : Prop} [Decidable p] (hs : IsNumeral s)
    (ht : IsNumeral t) : IsNumeral (if p then s else t) := by
  split
  · exact hs
  · exact ht

theorem isNumeral_ofList {digits : List Char} (h : ∀ c ∈ digits, c.isDigit = true) :
    IsNumeral (String.ofList digits) := by
  rw [IsNumeral, String.toList_ofList, List.all_eq_true]
  intro c hc
  rw [h c hc, Bool.true_or]

theorem isNumeral_repr (n : Nat) : IsNumeral n.repr :=
  isNumeral_ofList fun _ hc => Nat.isDigit_of_mem_toDigits (by decide) (by decide) hc

private theorem isNumeral_zeros (n : Nat) : IsNumeral (zeros n) :=
  isNumeral_ofList fun _ hc => (List.mem_replicate.mp hc).2 ▸ rfl

private theorem isNumeral_positionalText {layout : DecimalLayout} {digits : List Char}
    (hwhole : IsNumeral layout.whole) (hdigits : ∀ c ∈ digits, c.isDigit = true) (place : Int) :
    IsNumeral (layout.positionalText digits place) := by
  have htake (n : Nat) : IsNumeral (String.ofList (digits.take n)) :=
    isNumeral_ofList fun c hc => hdigits c (List.mem_of_mem_take hc)
  have hdrop (n : Nat) : IsNumeral (String.ofList (digits.drop n)) :=
    isNumeral_ofList fun c hc => hdigits c (List.mem_of_mem_drop hc)
  have hpoint : IsNumeral "." ∧ IsNumeral "0." := by decide
  unfold positionalText
  refine .ite ?whole (.ite ?inside ?before)
  case whole => exact ((isNumeral_ofList hdigits).append (isNumeral_zeros _)).append hwhole
  case inside => exact ((htake _).append hpoint.1).append (hdrop _)
  case before => exact (hpoint.2.append (isNumeral_zeros _)).append (isNumeral_ofList hdigits)

private theorem isNumeral_scientificText {digits : List Char}
    (hdigits : ∀ c ∈ digits, c.isDigit = true) (place : Int) :
    IsNumeral (scientificText digits place) := by
  have hfirst : IsNumeral (String.ofList (digits.take 1)) :=
    isNumeral_ofList fun c hc => hdigits c (List.mem_of_mem_take hc)
  have htail : IsNumeral (String.ofList (digits.drop 1)) :=
    isNumeral_ofList fun c hc => hdigits c (List.mem_of_mem_drop hc)
  have hpoint : IsNumeral "." := by decide
  have hmarks : IsNumeral "e-" ∧ IsNumeral "e+" ∧ IsNumeral "" := by decide
  exact ((hfirst.append (.ite hmarks.2.2 (hpoint.append htail))).append
    (.ite hmarks.1 hmarks.2.1)).append (isNumeral_repr _)

/-- The text of a double has no letters but the exponent mark. -/
theorem isNumeral_write {layout : DecimalLayout} (hwhole : IsNumeral layout.whole) (x : Double) :
    IsNumeral (layout.write x) := by
  have hdigits : ∀ c ∈ Nat.toDigits 10 x.shortest.digits, c.isDigit = true :=
    fun _ hc => Nat.isDigit_of_mem_toDigits (by decide) (by decide) hc
  have hzero : IsNumeral "0" := by decide
  have hsign : IsNumeral "-" ∧ IsNumeral "" := by decide
  exact (IsNumeral.ite hsign.1 hsign.2).append <| .ite (hzero.append hwhole) <|
    .ite (isNumeral_positionalText hwhole hdigits _) (isNumeral_scientificText hdigits _)

end DecimalLayout
end RecordShape
