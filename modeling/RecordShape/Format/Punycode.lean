/-!
# Punycode

The ASCII spelling of labels in other scripts. The letters of ASCII come first, and what follows
the last dash says, in numbers of variable length, which code points to insert and where.
-/

namespace RecordShape.Punycode
attribute [local instance (high)] instPowNat

/-- The value of a digit in base 36. -/
def digit? (c : Char) : Option Nat :=
  if 'a' ≤ c ∧ c ≤ 'z' then some (c.toNat - 'a'.toNat)
  else if 'A' ≤ c ∧ c ≤ 'Z' then some (c.toNat - 'A'.toNat)
  else if '0' ≤ c ∧ c ≤ '9' then some (c.toNat - '0'.toNat + 26)
  else none

def threshold (k bias : Nat) : Nat :=
  if k ≤ bias then 1 else if bias + 26 ≤ k then 26 else k - bias

/-- Divides by 35 until at most 455 is left, and counts in steps of 36. -/
def shrink (delta k : Nat) : Nat × Nat :=
  if 455 < delta then shrink (delta / 35) (k + 36) else (delta, k)
termination_by delta
decreasing_by exact Nat.div_lt_self (by omega) (by omega)

/-- The bias after a number. -/
def adapt (delta count : Nat) (first : Bool) : Nat :=
  let delta := if first then delta / 700 else delta / 2
  let (delta, k) := shrink (delta + delta / count) 0
  k + 36 * delta / (delta + 38)

/-- Numbers stay below this. -/
def limit : Nat := 2 ^ (32 : Nat)

/-- One number and the digits after it. -/
def number? (bias : Nat) : Nat → Nat → Nat → List Char → Option (Nat × List Char)
  | _, _, _, [] => none
  | value, weight, k, c :: rest => do
    let d ← digit? c
    let value := value + d * weight
    if limit ≤ value then none
    else
      let t := threshold k bias
      if d < t then some (value, rest)
      else if limit ≤ weight * (36 - t) then none
      else number? bias value (weight * (36 - t)) (k + 36) rest

/-- Inserts the code points that the digits speak of, from the place `place` and the code point
`code` on; `fuel` bounds their number. -/
def insertAll (first : Bool) (code place bias : Nat) (text : List Nat) :
    Nat → List Char → Option (List Nat)
  | _, [] => some text
  | 0, _ :: _ => none
  | fuel + 1, digits => do
    let (delta, rest) ← number? bias 0 1 36 digits
    let count := text.length + 1
    let code := code + (place + delta) / count
    let place := (place + delta) % count
    if code.isValidChar then
      insertAll false code (place + 1) (adapt delta count first)
        (text.take place ++ code :: text.drop place) fuel rest
    else none

/-- The code points that a label, without its prefix, stands for. -/
def decode? (label : List Char) : Option (List Nat) :=
  let digits := (label.reverse.takeWhile (· ≠ '-')).reverse
  let basic := (label.take (label.length - digits.length)).dropLast
  insertAll true 128 0 72 (basic.map Char.toNat) digits.length digits

end RecordShape.Punycode
