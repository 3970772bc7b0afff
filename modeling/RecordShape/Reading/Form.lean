import RecordShape.Reading.Text
import RecordShape.Reading.Value

/-!
# Forms of values

A form says how values of a type are written in JSON. A value is read by a form either from a text,
with the place of the first error, or from a value that was read before. The result is JSON again,
in one fixed shape: records and tagged values are objects, choices are strings, and members that
no form asks for are gone.
-/

namespace RecordShape

inductive Form where
  | any
  | text
  | flag
  | double
  | size
  /-- The form or `null`. -/
  | optional (form : Form)
  | list (form : Form)
  /-- An object with arbitrary names. -/
  | table (form : Form)
  /-- An object with the named fields, or a list of them in this order. Fields not needed may be
  left out. -/
  | record (type : String) (fields : List (String × Form)) (needed : List String)
  /-- An object whose further members are kept, and looked at by `judge` when all are read. -/
  | extended (type : String) (fields : List (String × Form)) (judge : Json → Option Cause)
  /-- One of several names, some of which go with a value. -/
  | variant (cases : List (String × Option Form))
  /-- Any value, looked at when it is read. -/
  | judged (judge : Json → Option Cause)

/-- What is expected of a list that stands for a record. -/
def recordLength (type : String) (count : Nat) : String :=
  "struct " ++ type ++ " with " ++ toString count ++ (if count = 1 then " element" else " elements")

namespace Read

def check (judge : Json → Option Cause) (j : Json) : Read Json :=
  match judge j with
  | none => .ok j
  | some cause => fail cause

abbrev Reader := Json → Read Json

/-- The members of a record, those in `seen` having been read before. -/
def recordMembers (readers : List (String × Reader)) (needed : List String)
    (seen : List (String × Json)) : List (String × Json) → Read (List (String × Json))
  | [] =>
    match needed.find? fun key => !KeyMap.contains seen key with
    | some key => fail (.missingField key)
    | none => .ok seen.reverse
  | (key, j) :: rest =>
    match readers.lookup key with
    | none => recordMembers readers needed seen rest
    | some read =>
      if KeyMap.contains seen key then fail (.duplicateField key)
      else do
        let value ← within (.key key) (read j)
        recordMembers readers needed ((key, value) :: seen) rest

/-- The members of a record that is written as a list. -/
def recordElements (type : String) (count : Nat) (needed : List String) :
    Nat → List (String × Reader) → List Json → Read (List (String × Json))
  | _, [], [] => .ok []
  | i, [], rest => fail (.invalidLength (i + rest.length) "fewer elements in array")
  | i, (key, _) :: readers, [] =>
    if key ∈ needed then fail (.invalidLength i (recordLength type count))
    else recordElements type count needed (i + 1) readers []
  | i, (key, read) :: readers, j :: rest => do
    let value ← within (.index i) (read j)
    return (key, value) :: (← recordElements type count needed (i + 1) readers rest)

/-- The one member of an object that stands for a variant. -/
def variant (names : List String) : Json → Read (String × Option Json)
  | .str name => known name none
  | .obj [(name, j)] => known name (some j)
  | .obj _ => .error { cause := .invalidValue .object "map with a single key" }
  | j => mismatch "string or map" j
where
  known (name : String) (j : Option Json) : Read (String × Option Json) :=
    if name ∈ names then .ok (name, j) else fail (.unknownVariant name names)

/-- The value of a variant that goes with nothing. -/
def unit (name : String) : Option Json → Read Json
  | none | some .null => .ok (.str name)
  | some j => mismatch "unit" j

end Read

namespace Form
open Read (within fail mismatch Reader)

mutual
/-- Reads a value by a form. -/
def ofJson : Form → Json → Read Json
  | any, j => .ok j
  | text, j => (Read.text j).map fun _ => j
  | flag, j => (Read.flag j).map fun _ => j
  | double, j => (Read.double j).map fun _ => j
  | size, j => (Read.size j).map fun _ => j
  | optional form, j => if j.isNull then .ok .null else ofJson form j
  | list form, j => (Read.list (ofJson form) j).map .arr
  | table form, j =>
    match j with
    | .obj members => .obj <$> members.mapM fun (key, j) =>
        within (.key key) ((ofJson form j).map (key, ·))
    | j => mismatch "a map" j
  | record type fields needed, j =>
    match j with
    | .obj members => .obj <$> Read.recordMembers (readers fields) needed [] members
    | .arr items =>
      .obj <$> Read.recordElements type fields.length needed 0 (readers fields) items
    | j => mismatch ("struct " ++ type) j
  | extended type fields judge, j =>
    match j with
    | .obj members => do
      let _ ← Read.recordMembers (readers fields) [] [] members
      Read.check judge j
    | j => mismatch ("struct " ++ type) j
  | variant cases, j => do
    let (name, payload) ← Read.variant (cases.map Prod.fst) j
    match payload, (payloadReaders cases).lookup name with
    | some j, some read => (read j).map fun value => .obj [(name, value)]
    | none, some _ => fail (.invalidType .bareName "newtype variant")
    | _, none => Read.unit name payload
  | judged judge, j => Read.check judge j

def readers : List (String × Form) → List (String × Reader)
  | [] => []
  | (key, form) :: rest => (key, ofJson form) :: readers rest

def payloadReaders : List (String × Option Form) → List (String × Reader)
  | [] => []
  | (_, none) :: rest => payloadReaders rest
  | (key, some form) :: rest => (key, ofJson form) :: payloadReaders rest
end

end Form

namespace Scan

/-- A word, number or string that is not what was expected, or the bracket that stands there. -/
def misfit (cause : Json → Cause) : Scan Json := do
  match ← peek with
  | none => faultAhead .endInValue
  | some '[' => placed (fail (cause (.arr [])))
  | some '{' => placed (fail (cause (.obj [])))
  | some c =>
    let j ← simpleValue c
    placed (fail (cause j))

def mismatch (expected : String) : Scan Json := misfit fun j => .invalidType (.ofJson j) expected

/-- A word, number or string that `read` accepts. -/
def simple {α : Type} (read : Json → Read α) : Scan Json := do
  let check (j : Json) : Scan Json :=
    match read j with
    | .ok _ => return j
    | .error e => placed (fail e.cause)
  match ← peek with
  | none => faultAhead .endInValue
  | some '[' => check (.arr [])
  | some '{' => check (.obj [])
  | some c => check (← simpleValue c)

def check (judge : Json → Option Cause) (j : Json) : Scan Json :=
  match judge j with
  | none => return j
  | some cause => fail cause

/-- The members of a record. What becomes of a member without a reader is up to `further`. -/
def recordMembers (readers : List (String × Scan Json)) (needed : List String)
    (further : Scan (Option Json)) (seen : List (String × Json)) (first : Bool) :
    Nat → Scan (List (String × Json))
  | 0 => return seen.reverse
  | fuel + 1 => do
    match ← memberName first with
    | none =>
      match needed.find? fun key => !KeyMap.contains seen key with
      | some key => fail (.missingField key)
      | none => return seen.reverse
    | some key =>
      match readers.lookup key with
      | none =>
        match ← within (.key key) (colon *> further) with
        | none => recordMembers readers needed further seen false fuel
        | some j => recordMembers readers needed further ((key, j) :: seen) false fuel
      | some read =>
        if KeyMap.contains seen key then fail (.duplicateField key)
        else
          let j ← within (.key key) (colon *> read)
          recordMembers readers needed further ((key, j) :: seen) false fuel

/-- The members of a record that is written as a list. -/
def recordElements (type : String) (count : Nat) (needed : List String) (i : Nat) :
    List (String × Scan Json) → Scan (List (String × Json))
  | [] => return []
  | (key, read) :: readers => do
    if ← within (.index i) (anotherElement (i = 0)) then
      let j ← within (.index i) read
      return (key, j) :: (← recordElements type count needed (i + 1) readers)
    else if key ∈ needed then fail (.invalidLength i (recordLength type count))
    else recordElements type count needed (i + 1) readers

/-- One of some names, in quotes. -/
def variantName (names : List String) : Scan String := do
  match ← peek with
  | some '"' =>
    drop
    let name ← string
    if name ∈ names then return name else placed (fail (.unknownVariant name names))
  | _ => return (← mismatch "variant identifier").string?.getD ""

/-- A variant: its name alone, or an object with the name and what `payload` reads. -/
def variant (names : List String) (depth : Nat) (alone : String → Scan Json)
    (payload : String → Scan Json) : Scan Json := do
  match ← peek with
  | none => faultAhead .endInValue
  | some '"' => alone (← variantName names)
  | some '{' =>
    if depth ≤ 1 then faultAhead .nestingTooDeep
    else
      drop
      let name ← variantName names
      colon
      let j ← payload name
      match ← peek with
      | some '}' => drop; return j
      | some _ => fault .expectedValue
      | none => fault .endInObject
  | some _ => faultAhead .expectedValue

end Scan

namespace Form
open Scan (within fail entered repeated peek)

mutual
/-- Reads a value by a form from a text; brackets may nest less than `depth` deep. -/
def read (depth : Nat) : Form → Scan Json
  | any => Scan.value depth
  | text => Scan.simple Read.text
  | flag => Scan.simple Read.flag
  | double => Scan.simple Read.double
  | size => Scan.simple Read.size
  | optional form => do
    if (← peek) = some 'n' then Scan.simpleValue 'n' else read depth form
  | list form => do
    match ← peek with
    | some '[' =>
      .arr <$> entered depth (repeated (Scan.elements (read (depth - 1) form) 0)) Scan.listEnd
    | _ => Scan.mismatch "a sequence"
  | table form => do
    match ← peek with
    | some '{' =>
      let member (name : String) : Scan (String × Json) :=
        return (name, ← read (depth - 1) form)
      .obj <$> entered depth (repeated (Scan.members member true)) Scan.objectEnd
    | _ => Scan.mismatch "a map"
  | record type fields needed => do
    match ← peek with
    | some '{' =>
      let body := Scan.recordMembers (scanners (depth - 1) fields) needed
        (do Scan.skip; return none) [] true
      .obj <$> entered depth (repeated body) Scan.objectEnd
    | some '[' =>
      let body := Scan.recordElements type fields.length needed 0 (scanners (depth - 1) fields)
      .obj <$> entered depth body Scan.listEnd
    | _ => Scan.mismatch ("struct " ++ type)
  | extended type fields judge => do
    match ← peek with
    | some '{' =>
      let members := Scan.recordMembers (scanners (depth - 1) fields) []
        (some <$> Scan.value (depth - 1)) [] true
      let body (fuel : Nat) : Scan Json := do Scan.check judge (.obj (← members fuel))
      entered depth (repeated body) Scan.objectEnd
    | _ => Scan.mismatch ("struct " ++ type)
  | variant cases =>
    let scanners := payloadScanners (depth - 1) cases
    let alone (name : String) : Scan Json :=
      if (scanners.lookup name).isSome then fail (.invalidType .bareName "newtype variant")
      else return .str name
    let payload (name : String) : Scan Json := do
      match scanners.lookup name with
      | some read => return .obj [(name, ← read)]
      | none =>
        match ← peek with
        | some 'n' => let _ ← Scan.simpleValue 'n'; return .str name
        | _ => Scan.mismatch "unit"
    Scan.variant (cases.map Prod.fst) depth alone payload
  | judged judge => do Scan.check judge (← Scan.value depth)

def scanners (depth : Nat) : List (String × Form) → List (String × Scan Json)
  | [] => []
  | (key, form) :: rest => (key, read depth form) :: scanners depth rest

def payloadScanners (depth : Nat) : List (String × Option Form) → List (String × Scan Json)
  | [] => []
  | (_, none) :: rest => payloadScanners depth rest
  | (key, some form) :: rest => (key, read depth form) :: payloadScanners depth rest
end

/-- One of several names. -/
def choice (names : List String) : Form := variant (names.map fun name => (name, none))

/-- Reads a text that holds one value of a form and nothing else. -/
def ofText (form : Form) (text : String) : Read Json :=
  Scan.run (form.read Scan.nestingLimit <* Scan.finished) text

end Form
end RecordShape
