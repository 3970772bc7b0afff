import RecordShape.Reading.Error

/-!
# Scanning a text

A scanner works on the characters that are left of a text. Its error notes how many bytes were
left where it arose, and keeps those characters, so that an error without a place can still be
given one by the list or object around it. Only the reader of the whole text turns bytes left
into a line and a column.
-/

namespace RecordShape

structure ScanError where
  cause : Cause
  path : List Step := []
  bytesLeft : Option Nat := none

abbrev Scan := EStateM ScanError (List Char)

/-- The length of a text in bytes. -/
def byteCount (s : List Char) : Nat := s.foldl (fun n c => n + c.utf8Size) 0

namespace Position

/-- The place after some bytes of a text. Bytes inside a character count for the column. -/
def after (bytes : Nat) (start : Position) : List Char → Position
  | [] => start
  | c :: rest =>
    if bytes < c.utf8Size then { start with column := start.column + bytes }
    else
      let next : Position :=
        if c = '\n' then ⟨start.line + 1, 0⟩ else { start with column := start.column + c.utf8Size }
      after (bytes - c.utf8Size) next rest

end Position

/-- The error with its place in the text that was scanned. -/
def ScanError.locate (text : List Char) (e : ScanError) : ReadError :=
  { cause := e.cause, path := e.path,
    position := e.bytesLeft.map fun left => .after (byteCount text - left) ⟨1, 0⟩ text }

/-- A piece of text scanned without looking further: what it says and what is left, or a fault and
how many bytes were left then. -/
abbrev Piece (α : Type) := Except (SyntaxFault × Nat) (α × List Char)

namespace Scan
variable {α : Type}

def fail (cause : Cause) : Scan α := throw { cause }

/-- A fault at the place reached. -/
def fault (fault : SyntaxFault) : Scan α := fun s =>
  .error { cause := .malformed fault, bytesLeft := some (byteCount s) } s

/-- A fault of the next byte, placed behind it. -/
def faultAhead (fault : SyntaxFault) : Scan α := fun s =>
  .error { cause := .malformed fault, bytesLeft := some (byteCount s - 1) } s

def piece (scan : List Char → Piece α) : Scan α := fun s =>
  match scan s with
  | .ok (a, rest) => .ok a rest
  | .error (fault, left) => .error { cause := .malformed fault, bytesLeft := some left } s

def isBlank (c : Char) : Bool := c = ' ' || c = '\n' || c = '\t' || c = '\r'

/-- The next character after white space, which is passed over. -/
def peek : Scan (Option Char) := fun s =>
  let rest := s.dropWhile isBlank
  .ok rest.head? rest

/-- Passes over one character. -/
def drop : Scan Unit := modify List.tail

/-- Gives an error that has no place yet the place reached. -/
def placed (scan : Scan α) : Scan α := fun s =>
  match scan s with
  | .ok a rest => .ok a rest
  | .error e rest => .error { e with bytesLeft := e.bytesLeft <|> some (byteCount rest) } rest

/-- Names the step to the part that is scanned. -/
def within (step : Step) (scan : Scan α) : Scan α := fun s =>
  match scan s with
  | .ok a rest => .ok a rest
  | .error e rest => .error { e with path := step :: e.path } rest

/-- Scans what a bracket encloses and then its end. After an error the end is looked for too, and
an error without a place gets the place reached then. -/
def enclosed (body : Scan α) (finish : Scan Unit) : Scan α := fun s =>
  match body s with
  | .ok a rest => (finish *> pure a) rest
  | .error e rest =>
    match finish rest with
    | .ok _ rest' | .error _ rest' =>
      .error { e with bytesLeft := e.bytesLeft <|> some (byteCount rest') } rest'

def listEnd : Scan Unit := do
  match ← peek with
  | some ']' => drop
  | some ',' =>
    drop
    match ← peek with
    | some ']' => faultAhead .trailingComma
    | _ => faultAhead .trailingCharacters
  | some _ => faultAhead .trailingCharacters
  | none => faultAhead .endInList

def objectEnd : Scan Unit := do
  match ← peek with
  | some '}' => drop
  | some ',' => faultAhead .trailingComma
  | some _ => faultAhead .trailingCharacters
  | none => faultAhead .endInObject

/-- Whether another element of a list comes. The comma before it is passed over. -/
def anotherElement (first : Bool) : Scan Bool := do
  match ← peek with
  | none => faultAhead .endInList
  | some ']' => return false
  | some c =>
    if first then return true
    else if c = ',' then
      drop
      match ← peek with
      | some ']' => faultAhead .trailingComma
      | some _ => return true
      | none => faultAhead .endInValue
    else faultAhead .expectedListEnd

/-- Whether another member of an object comes. The comma before it is passed over, and a quote
must follow. -/
def anotherMember (first : Bool) : Scan Bool := do
  match ← peek with
  | none => faultAhead .endInObject
  | some '}' => return false
  | some c =>
    if first then
      if c = '"' then return true else faultAhead .nameNotString
    else if c = ',' then
      drop
      match ← peek with
      | some '"' => return true
      | some '}' => faultAhead .trailingComma
      | some _ => faultAhead .nameNotString
      | none => faultAhead .endInValue
    else faultAhead .expectedObjectEnd

def colon : Scan Unit := do
  match ← peek with
  | some ':' => drop
  | some _ => faultAhead .expectedColon
  | none => faultAhead .endInObject

/-- Nothing but white space may be left. -/
def finished : Scan Unit := do
  match ← peek with
  | none => return ()
  | some _ => faultAhead .trailingCharacters

/-- Runs a scanner on a whole text. -/
def run (scan : Scan α) (text : String) : Read α :=
  match EStateM.run scan text.toList with
  | .ok a _ => .ok a
  | .error e _ => .error (e.locate text.toList)

end Scan
end RecordShape
