import RecordShape.Decimal.Extended
import RecordShape.Format.Calendar

/-!
# Words and strings of a TOML text

Scanners for the smallest parts of a TOML text. Each gives what it has read and what is left, or
nothing where the text breaks the rules.
-/

namespace RecordShape.Toml
attribute [local instance (high)] instPowNat

def isBlank (c : Char) : Bool := c = ' ' || c = '\t'

def skipBlanks (s : List Char) : List Char := s.dropWhile isBlank

/-- A control character, which may not stand in comments and strings. -/
def isControl (c : Char) : Bool := (c.toNat < 0x20 && c ≠ '\t') || c.toNat = 0x7f

def newline? : List Char → Option (List Char)
  | '\n' :: rest => some rest
  | '\r' :: '\n' :: rest => some rest
  | _ => none

/-- Passes over a comment, if one stands here, to the end of its line. -/
def comment? (s : List Char) : Option (List Char) :=
  match s with
  | '#' :: rest =>
    let rest := rest.dropWhile fun c => !isControl c
    match rest with
    | [] => some []
    | _ => (newline? rest).map fun _ => rest
  | _ => some s

/-- The end of a line or of the text, perhaps after a comment. -/
def lineEnd? (s : List Char) : Option (List Char) :=
  match comment? (skipBlanks s) with
  | some [] => some []
  | some s => newline? s
  | none => none

/-- Passes over white space, comments and line ends. -/
def skipLines : Nat → List Char → Option (List Char)
  | 0, s => some s
  | fuel + 1, s => do
    let s ← comment? (skipBlanks s)
    match newline? s with
    | some rest => skipLines fuel rest
    | none => some s

def hexDigit? (c : Char) : Option Nat :=
  if '0' ≤ c ∧ c ≤ '9' then some (c.toNat - '0'.toNat)
  else if 'a' ≤ c ∧ c ≤ 'f' then some (c.toNat - 'a'.toNat + 10)
  else if 'A' ≤ c ∧ c ≤ 'F' then some (c.toNat - 'A'.toNat + 10)
  else none

/-- The character with the number that the digits spell. -/
def spelled? (digits : List Char) : Option Char := do
  let n ← digits.foldlM (fun n c => (hexDigit? c).map (n * 16 + ·)) 0
  if h : n.isValidChar then some (Char.ofNatAux n h) else none

/-- An escape, after its backslash. -/
def escape? : List Char → Option (Char × List Char)
  | 'u' :: a :: b :: c :: d :: rest => (spelled? [a, b, c, d]).map (·, rest)
  | 'U' :: a :: b :: c :: d :: e :: f :: g :: h :: rest =>
    (spelled? [a, b, c, d, e, f, g, h]).map (·, rest)
  | c :: rest =>
    if c = 'b' then some ('\x08', rest)
    else if c = 't' then some ('\t', rest)
    else if c = 'n' then some ('\n', rest)
    else if c = 'f' then some ('\x0c', rest)
    else if c = 'r' then some ('\r', rest)
    else if c = '"' ∨ c = '\\' then some (c, rest)
    else none
  | [] => none

/-- A string in double quotes, after the first. -/
def basicString? (seen : List Char) : Nat → List Char → Option (String × List Char)
  | 0, _ | _, [] => none
  | fuel + 1, c :: rest =>
    if c = '"' then some (String.ofList seen.reverse, rest)
    else if c = '\\' then do
      let (c, rest) ← escape? rest
      basicString? (c :: seen) fuel rest
    else if isControl c then none
    else basicString? (c :: seen) fuel rest

/-- A string in single quotes, after the first. -/
def literalString? (s : List Char) : Option (String × List Char) :=
  match s.dropWhile fun c => c ≠ '\'' && !isControl c with
  | '\'' :: rest => some (String.ofList (s.takeWhile (· ≠ '\'')), rest)
  | _ => none

/-- The quotes that end a string of several lines: three, after at most two that belong to the
string. -/
def closing? (quote : Char) (seen s : List Char) : Option (String × List Char) :=
  let count := (s.takeWhile (· = quote)).length
  if count < 3 then none
  else
    let inside := min (count - 3) 2
    some (String.ofList (seen.reverse ++ List.replicate inside quote), s.drop (inside + 3))

/-- A string of several lines, after its opening quotes. A backslash at the end of a line takes
the white space after it away. -/
def linesString? (quote : Char) (seen : List Char) : Nat → List Char → Option (String × List Char)
  | 0, _ | _, [] => none
  | fuel + 1, c :: rest =>
    if c = quote then
      match closing? quote seen (c :: rest) with
      | some done => some done
      | none => linesString? quote (c :: seen) fuel rest
    else if c = '\\' && quote = '"' then
      match newline? (skipBlanks rest) with
      | some after =>
        linesString? quote seen fuel
          (after.dropWhile fun d => isBlank d || d = '\n' || d = '\r')
      | none => do
        let (c, rest) ← escape? rest
        linesString? quote (c :: seen) fuel rest
    else
      match newline? (c :: rest) with
      | some after => linesString? quote ('\n' :: seen) fuel after
      | none => if isControl c then none else linesString? quote (c :: seen) fuel rest

/-- A string that may have several lines; a line end right after the opening quotes is dropped. -/
def string? (s : List Char) : Option (String × List Char) :=
  match s with
  | '"' :: '"' :: '"' :: rest =>
    linesString? '"' [] rest.length.succ ((newline? rest).getD rest)
  | '\'' :: '\'' :: '\'' :: rest =>
    linesString? '\'' [] rest.length.succ ((newline? rest).getD rest)
  | '"' :: rest => basicString? [] rest.length.succ rest
  | '\'' :: rest => literalString? rest
  | _ => none

def isBare (c : Char) : Bool :=
  ('a' ≤ c && c ≤ 'z') || ('A' ≤ c && c ≤ 'Z') || ('0' ≤ c && c ≤ '9') || c = '_' || c = '-'

/-- One part of a key. -/
def keyPart? (s : List Char) : Option (String × List Char) :=
  match s with
  | '"' :: rest => basicString? [] rest.length.succ rest
  | '\'' :: rest => literalString? rest
  | _ =>
    let name := s.takeWhile isBare
    if name.isEmpty then none else some (String.ofList name, s.drop name.length)

/-- A key: parts with dots between them. -/
def key? : Nat → List Char → Option (List String × List Char)
  | 0, _ => none
  | fuel + 1, s => do
    let (part, rest) ← keyPart? (skipBlanks s)
    match skipBlanks rest with
    | '.' :: rest => do
      let (parts, rest) ← key? fuel rest
      some (part :: parts, rest)
    | rest => some ([part], rest)

/-! ## Numbers -/

def isDigit (c : Char) : Bool := '0' ≤ c && c ≤ '9'

/-- Digits in a base; single underscores may stand between them. -/
def digits? (base : Nat) : List Char → Option (List Nat)
  | [] => none
  | c :: rest => do
    let d ← hexDigit? c
    if base ≤ d then none
    else
      match rest with
      | [] => some [d]
      | '_' :: rest => (digits? base rest).map (d :: ·)
      | rest => (digits? base rest).map (d :: ·)

def value (base : Nat) (digits : List Nat) : Nat := digits.foldl (fun n d => n * base + d) 0

/-- Decimal digits without superfluous zeros in front. -/
def decimal? (s : List Char) : Option (List Nat) :=
  match digits? 10 s with
  | some (0 :: _ :: _) => none
  | digits => digits

def sign (s : List Char) : Bool × List Char :=
  match s with
  | '-' :: rest => (true, rest)
  | '+' :: rest => (false, rest)
  | _ => (false, s)

/-- An integer of 64 bits. -/
def integer? (word : List Char) : Option Int :=
  let n? := match word with
    | '0' :: 'x' :: rest => (digits? 16 rest).map fun ds => (value 16 ds : Int)
    | '0' :: 'o' :: rest => (digits? 8 rest).map fun ds => (value 8 ds : Int)
    | '0' :: 'b' :: rest => (digits? 2 rest).map fun ds => (value 2 ds : Int)
    | _ =>
      let (negative, rest) := sign word
      (decimal? rest).map fun ds => if negative then -(value 10 ds : Int) else value 10 ds
  n?.filter fun n => -(2 ^ (63 : Nat)) ≤ n && n < 2 ^ (63 : Nat)

/-- The exponent after the letter `e`, if there is one. -/
def exponent? (s : List Char) : Option Int :=
  match s with
  | [] => some 0
  | _ :: rest =>
    let (negative, rest) := sign rest
    (digits? 10 rest).map fun ds => if negative then -(value 10 ds : Int) else value 10 ds

/-- A number with a fraction or an exponent, or one of the words for no such number. Too great a
number is refused, but too low a one is infinite. -/
def float? (word : List Char) : Option ExtendedDouble := do
  let (negative, s) := sign word
  if s = "inf".toList then some (.infinite negative)
  else if s = "nan".toList then some .notANumber
  else
    let isExponent (c : Char) : Bool := c = 'e' || c = 'E'
    let mantissa := s.takeWhile fun c => !isExponent c
    let exponent ← exponent? (s.drop mantissa.length)
    let front := mantissa.takeWhile (· ≠ '.')
    let whole ← decimal? front
    let fraction ← match mantissa.drop front.length with
      | [] => if mantissa.length = s.length then none else some []
      | _ :: rest => digits? 10 rest
    match ExtendedDouble.ofDecimal negative (value 10 (whole ++ fraction))
        (exponent - fraction.length) with
    | .infinite false => none
    | x => some x

/-! ## Dates and times -/

/-- The fraction of a second as it is written again: nine digits without the zeros at the end. -/
def fractionText (digits : List Char) : String :=
  let kept := ((digits.take 9).reverse.dropWhile (· = '0')).reverse
  if kept.isEmpty then "" else "." ++ String.ofList kept

/-- A time of day, and what follows it. -/
def time? (s : List Char) : Option (String × List Char) := do
  let rest ← Calendar.time? s
  let written := s.take (s.length - rest.length)
  some (String.ofList (written.take 8) ++ fractionText (written.drop 9), rest)

/-- An offset, and nothing after it. -/
def offset? (s : List Char) : Option String :=
  match s with
  | [] => some ""
  | ['Z'] | ['z'] => some "Z"
  | c :: _ =>
    if (c = '+' ∨ c = '-') ∧ Calendar.offset? s = some [] then
      some (if s = "-00:00".toList then "+00:00" else String.ofList s)
    else none

/-- A date, a time, or a date with a time and perhaps an offset, as it is written again. -/
def moment? (word : List Char) : Option String :=
  match Calendar.date? word with
  | some [] => some (String.ofList word)
  | some (c :: rest) =>
    if c = 'T' ∨ c = 't' ∨ c = ' ' then do
      let (time, rest) ← time? rest
      let offset ← offset? rest
      some (String.ofList (word.take 10) ++ "T" ++ time ++ offset)
    else none
  | none =>
    match time? word with
    | some (time, []) => some time
    | _ => none

end RecordShape.Toml
