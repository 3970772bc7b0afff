import RecordShape.Reading.Token

/-!
# JSON values in a text

`Scan.value` reads any value, at most `Scan.nestingLimit - 1` brackets deep. `Scan.skip` passes
over a value that nobody asked for: it looks at the shape of the text only, to any depth, and not
at the size of numbers or the characters that escapes stand for.
-/

namespace RecordShape.Scan
variable {α : Type}

/-- Texts nest less deep than this. -/
def nestingLimit : Nat := 128

/-- Runs a scanner with an allowance for repetitions that the characters left provide. -/
def repeated (scan : Nat → Scan α) : Scan α := fun s => scan (s.length + 1) s

/-- A string after its opening quote. -/
def string : Scan String := piece (Piece.stringBody [])

/-- A word, a number or a string, which starts with the given character. -/
def simpleValue (c : Char) : Scan Json := do
  if c = 'n' then drop; piece (Piece.word "ull".toList); return .null
  else if c = 't' then drop; piece (Piece.word "rue".toList); return .bool true
  else if c = 'f' then drop; piece (Piece.word "alse".toList); return .bool false
  else if c = '-' then drop; return .num (← piece (Piece.number true))
  else if Piece.isDigit c then return .num (← piece (Piece.number false))
  else if c = '"' then drop; return .str (← string)
  else faultAhead .expectedValue

/-- The elements of a list from the one numbered `i` on. -/
def elements (element : Scan α) (i : Nat) : Nat → Scan (List α)
  | 0 => return []
  | fuel + 1 => do
    if ← within (.index i) (anotherElement (i = 0)) then
      let a ← within (.index i) element
      return a :: (← elements element (i + 1) fuel)
    else return []

/-- The name of the next member, if another comes. -/
def memberName (first : Bool) : Scan (Option String) :=
  within .unknown do
    if ← anotherMember first then drop; return some (← string)
    else return none

/-- The members of an object; `read` gets the name of a member and reads its value. -/
def members (read : String → Scan α) (first : Bool) : Nat → Scan (List α)
  | 0 => return []
  | fuel + 1 => do
    match ← memberName first with
    | none => return []
    | some name =>
      let a ← within (.key name) (colon *> read name)
      return a :: (← members read false fuel)

/-- Goes into a bracket, unless the nesting is too deep. -/
def entered (depth : Nat) (body : Scan α) (finish : Scan Unit) : Scan α :=
  if depth ≤ 1 then faultAhead .nestingTooDeep
  else do drop; enclosed body finish

/-- Reads any value; brackets may nest less than `depth` deep. -/
def value : Nat → Scan Json
  | 0 => faultAhead .nestingTooDeep
  | depth + 1 => do
    match ← peek with
    | none => faultAhead .endInValue
    | some '[' => return .arr (← entered (depth + 1) (repeated (elements (value depth) 0)) listEnd)
    | some '{' =>
      let member (name : String) : Scan (String × Json) := return (name, ← value depth)
      return .obj (← entered (depth + 1) (repeated (members member true)) objectEnd)
    | some c => simpleValue c

end RecordShape.Scan

namespace RecordShape.Piece

/-- The characters up to the closing quote, only to be passed over. -/
def skipString : List Char → Piece Unit
  | [] => .error (.endInString, 0)
  | '\\' :: [] => .error (.endInString, 0)
  | '\\' :: 'u' :: a :: b :: c :: d :: rest =>
    match hexFour? a b c d with
    | none => .error (hexFault (a :: b :: c :: d :: rest))
    | some _ => skipString rest
  | '\\' :: 'u' :: short => .error (hexFault short)
  | '\\' :: c :: rest =>
    match escaped? c with
    | some _ => skipString rest
    | none => .error (.invalidEscape, byteCount (c :: rest) - 1)
  | c :: rest =>
    if c = '"' then .ok ((), rest)
    else if c.toNat < 0x20 then .error (.controlCharacter, byteCount (c :: rest))
    else skipString rest

/-- An exponent to be passed over, after its letter. -/
def skipExponent (s : List Char) : Piece Unit :=
  let s := match s with
    | '+' :: rest | '-' :: rest => rest
    | _ => s
  match s with
  | [] => .error (.invalidNumber, 0)
  | c :: rest =>
    if isDigit c then .ok ((), rest.dropWhile isDigit)
    else .error (.invalidNumber, byteCount s - 1)

/-- A number to be passed over, after its sign. -/
def skipNumber (s : List Char) : Piece Unit :=
  match s.takeWhile isDigit, s.dropWhile isDigit with
  | [], rest => .error (.invalidNumber, byteCount rest - 1)
  | '0' :: c :: more, rest => .error (.invalidNumber, byteCount (c :: more) + byteCount rest - 1)
  | _ :: _, '.' :: rest =>
    match rest.takeWhile isDigit, rest.dropWhile isDigit with
    | [], rest => .error (.invalidNumber, byteCount rest - 1)
    | _ :: _, c :: rest => if c = 'e' ∨ c = 'E' then skipExponent rest else .ok ((), c :: rest)
    | _ :: _, [] => .ok ((), [])
  | _ :: _, c :: rest => if c = 'e' ∨ c = 'E' then skipExponent rest else .ok ((), c :: rest)
  | _ :: _, [] => .ok ((), [])

end RecordShape.Piece

namespace RecordShape.Scan

/-- Passes over a word, a number or a string. -/
def skipSimple (c : Char) : Scan Unit := do
  if c = 'n' then drop; piece (Piece.word "ull".toList)
  else if c = 't' then drop; piece (Piece.word "rue".toList)
  else if c = 'f' then drop; piece (Piece.word "alse".toList)
  else if c = '-' then drop; piece Piece.skipNumber
  else if Piece.isDigit c then piece Piece.skipNumber
  else if c = '"' then drop; piece Piece.skipString
  else faultAhead .expectedValue

/-- Passes over the rest of a list. -/
def skipElements (element : Scan Unit) (first : Bool) : Nat → Scan Unit
  | 0 => return ()
  | fuel + 1 => do
    match ← peek with
    | none => faultAhead .endInList
    | some ']' => drop
    | some c =>
      if first then element; skipElements element false fuel
      else if c = ',' then drop; element; skipElements element false fuel
      else faultAhead .expectedListEnd

/-- Passes over a name and what belongs to it. -/
def skipMember (read : Scan Unit) : Scan Unit := do
  match ← peek with
  | some '"' => drop; piece Piece.skipString; colon; read
  | some _ => faultAhead .nameNotString
  | none => faultAhead .endInObject

/-- Passes over the rest of an object. -/
def skipMembers (read : Scan Unit) (first : Bool) : Nat → Scan Unit
  | 0 => return ()
  | fuel + 1 => do
    match ← peek with
    | none => faultAhead .endInObject
    | some '}' => drop
    | some c =>
      if first then skipMember read; skipMembers read false fuel
      else if c = ',' then drop; skipMember read; skipMembers read false fuel
      else faultAhead .expectedObjectEnd

/-- Passes over a value with brackets nested at most `levels` deep. -/
def skipLevels : Nat → Scan Unit
  | 0 => return ()
  | levels + 1 => do
    match ← peek with
    | none => faultAhead .endInValue
    | some '[' => drop; repeated (skipElements (skipLevels levels) true)
    | some '{' => drop; repeated (skipMembers (skipLevels levels) true)
    | some c => skipSimple c

/-- Passes over a value. -/
def skip : Scan Unit := repeated skipLevels

end RecordShape.Scan

namespace RecordShape

/-- Reads a text that holds one value and nothing else. -/
def Json.ofText (text : String) : Read Json :=
  Scan.run (Scan.value Scan.nestingLimit <* Scan.finished) text

end RecordShape
