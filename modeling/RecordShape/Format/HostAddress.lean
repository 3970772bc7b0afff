/-!
# Numeric hosts

A host whose last part is a number must be an address of four bytes, in one to four parts. A host
in brackets is an address of eight groups; a run of zeros may be left out once, and the last two
groups may be written as four bytes.
-/

namespace RecordShape.HostAddress
attribute [local instance (high)] instPowNat

def isDigit (c : Char) : Bool := '0' ≤ c && c ≤ '9'

def hexDigit? (c : Char) : Option Nat :=
  if '0' ≤ c ∧ c ≤ '9' then some (c.toNat - '0'.toNat)
  else if 'a' ≤ c ∧ c ≤ 'f' then some (c.toNat - 'a'.toNat + 10)
  else if 'A' ≤ c ∧ c ≤ 'F' then some (c.toNat - 'A'.toNat + 10)
  else none

/-- The value of digits in a base, none of which may reach the base. -/
def value? (base : Nat) (digits : List Char) : Option Nat :=
  digits.foldlM (fun n c => do
    let d ← hexDigit? c
    if d < base then some (n * base + d) else none) 0

/-- A number in decimal, or after `0x` in hexadecimal, or after `0` in octal. -/
def number? : List Char → Option Nat
  | [] => none
  | '0' :: 'x' :: digits | '0' :: 'X' :: digits => value? 16 digits
  | ['0'] => some 0
  | '0' :: digits => value? 8 digits
  | digits => value? 10 digits

/-- The parts of a text between dots, among them empty ones. -/
def parts : List Char → List (List Char)
  | [] => [[]]
  | c :: rest =>
    if c = '.' then [] :: parts rest
    else
      match parts rest with
      | [] => [[c]]
      | part :: others => (c :: part) :: others

/-- The parts without an empty one at the end. -/
def trimmedParts (host : List Char) : List (List Char) :=
  let all := parts host
  if all.getLast? = some [] then all.dropLast else all

/-- The last part counts as a number. -/
def endsInNumber (host : List Char) : Bool :=
  match (trimmedParts host).getLast? with
  | none => false
  | some last => (!last.isEmpty && last.all isDigit) || (number? last).isSome

/-- An address of four bytes; the last part fills what the others leave. -/
def isFourBytes (host : List Char) : Bool :=
  let parts := trimmedParts host
  match parts.mapM number? with
  | none => false
  | some numbers =>
    numbers.length ≤ 4 && numbers.dropLast.all (· ≤ 255) &&
      numbers.getLast?.any (· < 256 ^ (5 - numbers.length))

/-- One to four hexadecimal digits and what follows them. -/
def group? (s : List Char) : Option (List Char) :=
  let digits := (s.take 4).takeWhile fun c => (hexDigit? c).isSome
  if digits.isEmpty then none else some (s.drop digits.length)

/-- A decimal number up to 255 without a leading zero. -/
def isByte (part : List Char) : Bool :=
  !part.isEmpty && part.all isDigit && (part.length = 1 || part.head? ≠ some '0') &&
    (value? 10 part).any (· ≤ 255)

/-- Four bytes in decimal. -/
def isDottedBytes (s : List Char) : Bool := (parts s).length = 4 && (parts s).all isByte

/-- The groups that are left to read, of which `count` have been read; `short` if a run of zeros
has been left out. A group or the end must follow. -/
def groups (short : Bool) : Nat → Nat → List Char → Bool
  | 0, _, _ => false
  | fuel + 1, count, s =>
    if 8 ≤ count then false
    else if count ≤ 6 && isDottedBytes s then count = 6 || short
    else
      match group? s with
      | none => false
      | some [] => count + 1 = 8 || short
      | some [':', ':'] => !short && count + 1 < 8
      | some (':' :: ':' :: rest) => !short && groups true fuel (count + 2) rest
      | some (':' :: rest) => groups short fuel (count + 1) rest
      | some _ => false

/-- An address of eight groups. -/
def isEightGroups : List Char → Bool
  | [':', ':'] => true
  | ':' :: ':' :: rest => groups true 9 1 rest
  | s => groups false 9 0 s

end RecordShape.HostAddress
