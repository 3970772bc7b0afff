import RecordShape.Reading.Scan

/-!
# The words, strings and numbers of a JSON text

Each piece is scanned from the characters that are left. The digits of a number are kept as long
as they fit 64 bits; the number is then scaled by a power of ten, and each step is rounded.
-/

namespace RecordShape.Piece
attribute [local instance (high)] instPowNat

/-- The rest of a word whose first character has been passed over. -/
def word : List Char → List Char → Piece Unit
  | [], rest => .ok ((), rest)
  | _ :: _, [] => .error (.endInValue, 0)
  | c :: cs, d :: rest =>
    if c = d then word cs rest else .error (.expectedWord, byteCount (d :: rest) - 1)

def hexDigit? (c : Char) : Option Nat :=
  if '0' ≤ c ∧ c ≤ '9' then some (c.toNat - '0'.toNat)
  else if 'a' ≤ c ∧ c ≤ 'f' then some (c.toNat - 'a'.toNat + 10)
  else if 'A' ≤ c ∧ c ≤ 'F' then some (c.toNat - 'A'.toNat + 10)
  else none

/-- The value of four hexadecimal digits. -/
def hexFour? (a b c d : Char) : Option Nat := do
  let a ← hexDigit? a
  let b ← hexDigit? b
  let c ← hexDigit? c
  let d ← hexDigit? d
  return ((a * 16 + b) * 16 + c) * 16 + d

/-- The fault of an escape that does not go on with four hexadecimal digits. -/
def hexFault (rest : List Char) : SyntaxFault × Nat :=
  if byteCount rest < 4 then (.endInString, 0) else (.invalidEscape, byteCount rest - 4)

/-- The character an escape letter stands for. -/
def escaped? (c : Char) : Option Char :=
  if c = '"' ∨ c = '\\' ∨ c = '/' then some c
  else if c = 'b' then some '\x08'
  else if c = 'f' then some '\x0c'
  else if c = 'n' then some '\n'
  else if c = 'r' then some '\r'
  else if c = 't' then some '\t'
  else none

def isLeading (n : Nat) : Bool := 0xd800 ≤ n && n ≤ 0xdbff
def isTrailing (n : Nat) : Bool := 0xdc00 ≤ n && n ≤ 0xdfff

/-- The characters up to the closing quote, after those in `seen`, which are reversed. -/
def stringBody (seen : List Char) : List Char → Piece String
  | [] => .error (.endInString, 0)
  | '\\' :: [] => .error (.endInString, 0)
  | '\\' :: 'u' :: a :: b :: c :: d :: rest =>
    match hexFour? a b c d with
    | none => .error (hexFault (a :: b :: c :: d :: rest))
    | some n =>
      if isTrailing n then .error (.loneSurrogate, byteCount rest)
      else if !isLeading n then stringBody (Char.ofNat n :: seen) rest
      else match rest with
        | '\\' :: 'u' :: e :: f :: g :: h :: rest =>
          match hexFour? e f g h with
          | none => .error (hexFault (e :: f :: g :: h :: rest))
          | some m =>
            if isTrailing m then
              stringBody (Char.ofNat ((n - 0xd800) * 0x400 + (m - 0xdc00) + 0x10000) :: seen) rest
            else .error (.loneSurrogate, byteCount rest)
        | '\\' :: 'u' :: short => .error (hexFault short)
        | '\\' :: c :: rest => .error (.unfinishedSurrogatePair, byteCount (c :: rest) - 1)
        | ['\\'] => .error (.endInString, 0)
        | c :: rest => .error (.unfinishedSurrogatePair, byteCount (c :: rest) - 1)
        | [] => .error (.endInString, 0)
  | '\\' :: 'u' :: short => .error (hexFault short)
  | '\\' :: c :: rest =>
    match escaped? c with
    | some e => stringBody (e :: seen) rest
    | none => .error (.invalidEscape, byteCount (c :: rest) - 1)
  | c :: rest =>
    if c = '"' then .ok (String.ofList seen.reverse, rest)
    else if c.toNat < 0x20 then .error (.controlCharacter, byteCount rest)
    else stringBody (c :: seen) rest

def isDigit (c : Char) : Bool := '0' ≤ c && c ≤ '9'

def digitValue (c : Char) : Nat := c.toNat - '0'.toNat

/-- Appends digits to a number while it stays below `2 ^ 64`; the digits that no longer fit are
left over. -/
def appendDigits (n : Nat) : List Char → Nat × List Char
  | [] => (n, [])
  | c :: cs =>
    if n * 10 + digitValue c < 2 ^ (64 : Nat) then appendDigits (n * 10 + digitValue c) cs
    else (n, c :: cs)

private def powerOfTen (n : Nat) : Double := (Double.ofDecimal? false 1 n).getD .zero

/-- Divides by `10 ^ 308` as often as the exponent asks for, and then by what remains. -/
def scaleDown (x : Double) (exponent : Nat) : Nat → Double
  | 0 => .zero
  | fuel + 1 =>
    if exponent ≤ 308 then (x.div? (powerOfTen exponent)).getD .zero
    else if x.significand = 0 then x
    else scaleDown ((x.div? (powerOfTen 308)).getD .zero) (exponent - 308) fuel

/-- The double that digits and an exponent of ten stand for, if it is finite. -/
def scaled? (significand : Nat) (exponent : Int) : Option Double :=
  let x := Double.ofInt significand
  if exponent < 0 then some (scaleDown x (-exponent).toNat 4)
  else if exponent ≤ 308 then x.mul? (powerOfTen exponent.toNat)
  else if significand = 0 then some x
  else none

private def signed (negative : Bool) (x : Double) : Number :=
  .double (if negative then x.neg else x)

private def scaledPiece (negative : Bool) (significand : Nat) (exponent : Int)
    (rest : List Char) : Piece Number :=
  match scaled? significand exponent with
  | some x => .ok (signed negative x, rest)
  | none => .error (.numberOutOfRange, byteCount rest)

/-- How many leading digits make a number beyond `2 ^ 31 - 1`. -/
private def overflowPlace (n count : Nat) : List Char → Option Nat
  | [] => none
  | c :: cs =>
    if 2 ^ (31 : Nat) ≤ n * 10 + digitValue c then some (count + 1)
    else overflowPlace (n * 10 + digitValue c) (count + 1) cs

/-- The digits of an exponent, after its sign. -/
def exponentDigits (negative : Bool) (significand : Nat) (start : Int) (down : Bool)
    (s : List Char) : Piece Number :=
  let digits := s.takeWhile isDigit
  let rest := s.dropWhile isDigit
  match digits, rest with
  | [], [] => .error (.endInValue, 0)
  | [], c :: rest => .error (.invalidNumber, byteCount (c :: rest) - 1)
  | _ :: _, _ =>
    match overflowPlace 0 0 digits with
    | some place =>
      if significand ≠ 0 ∧ !down then
        .error (.numberOutOfRange, byteCount (digits.drop place) + byteCount rest)
      else .ok (signed negative .zero, rest)
    | none =>
      let size : Int := digits.foldl (fun n c => n * 10 + digitValue c) 0
      scaledPiece negative significand (if down then start - size else start + size) rest

/-- What may follow the digits of a number: an exponent. -/
def exponentPart (negative : Bool) (significand : Nat) (exponent : Int) (s : List Char) :
    Piece Number :=
  match s with
  | c :: rest =>
    if c = 'e' ∨ c = 'E' then
      match rest with
      | '+' :: rest => exponentDigits negative significand exponent false rest
      | '-' :: rest => exponentDigits negative significand exponent true rest
      | _ => exponentDigits negative significand exponent false rest
    else scaledPiece negative significand exponent s
  | [] => scaledPiece negative significand exponent s

/-- The digits after a decimal point. -/
def decimals (negative : Bool) (significand : Nat) (exponent : Int) (s : List Char) :
    Piece Number :=
  let digits := s.takeWhile isDigit
  let rest := s.dropWhile isDigit
  match digits, rest with
  | [], [] => .error (.endInValue, 0)
  | [], _ :: _ => .error (.invalidNumber, byteCount rest - 1)
  | _ :: _, _ =>
    let (significand, extra) := appendDigits significand digits
    exponentPart negative significand (exponent - (digits.length - extra.length : Nat)) rest

/-- A number without fraction and exponent. -/
def whole (negative : Bool) (n : Nat) : Number :=
  if !negative then .int n
  else if n = 0 ∨ 2 ^ (63 : Nat) < n then .double (Double.ofInt n).neg
  else .int (-(n : Int))

/-- A number after its sign. -/
def number (negative : Bool) (s : List Char) : Piece Number :=
  let digits := s.takeWhile isDigit
  let rest := s.dropWhile isDigit
  match digits, rest with
  | [], [] => .error (.endInValue, 0)
  | [], _ :: _ => .error (.invalidNumber, byteCount rest - 1)
  | '0' :: c :: more, _ => .error (.invalidNumber, byteCount (c :: more) + byteCount rest - 1)
  | _ :: _, _ =>
    let (significand, extra) := appendDigits 0 digits
    let exponent : Int := extra.length
    match rest with
    | '.' :: rest => decimals negative significand exponent rest
    | c :: _ =>
      if c = 'e' ∨ c = 'E' ∨ !extra.isEmpty then exponentPart negative significand exponent rest
      else .ok (whole negative significand, rest)
    | [] =>
      if extra.isEmpty then .ok (whole negative significand, rest)
      else exponentPart negative significand exponent rest

end RecordShape.Piece
