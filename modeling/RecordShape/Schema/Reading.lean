import RecordShape.Schema.Basic
import RecordShape.Reading.Value

/-!
# Reading a schema from a JSON value

Members are read in the order given and the first error wins; the constraints of a field or model
come after its other members, and an error among them is placed at the field or model itself.
A kind may be any value, items that read neither as a pointer nor as a model are an error without
further detail, and relationships that do not read are left out.
-/

namespace RecordShape

open Read (within fail mismatch)

def TypeTag.ofJson (j : Json) : TypeTag :=
  match j.normalize with
  | .str s => .ofName s
  | .null => .other ""
  | value => .other value.compact

namespace Constraints

/-- Puts a constraint in its place; a member that is no constraint leaves all as it is. -/
def withMember (c : Constraints) (key : String) (j : Json) : Read Constraints :=
  if key = "format" then (Read.optional Read.text j).map fun v => { c with format := v }
  else if key = "enum" then
    (Read.optional (Read.list fun item => .ok item.normalize) j).map fun v => { c with values := v }
  else if key = "minimum" then (Read.optional Read.double j).map fun v => { c with minimum := v }
  else if key = "maximum" then (Read.optional Read.double j).map fun v => { c with maximum := v }
  else if key = "minLength" then (Read.optional Read.size j).map fun v => { c with minLength := v }
  else if key = "maxLength" then (Read.optional Read.size j).map fun v => { c with maxLength := v }
  else if key = "pattern" then (Read.optional Read.text j).map fun v => { c with pattern := v }
  else if key = "nullable" then (Read.flag j).map fun v => { c with nullable := v }
  else .ok c

/-- The names of the constraints, in the order of the list form. -/
def names : List String :=
  ["format", "enum", "minimum", "maximum", "minLength", "maxLength", "pattern", "nullable"]

/-- Reads the constraints among some members; `seen` are those read before. -/
def ofMembersFrom (c : Constraints) (seen : List String) :
    List (String × Json) → Read Constraints
  | [] => .ok c
  | (key, j) :: rest =>
    if key ∈ names then
      if key ∈ seen then fail (.duplicateField key)
      else do ofMembersFrom (← c.withMember key j) (key :: seen) rest
    else ofMembersFrom c seen rest

def ofMembers (members : List (String × Json)) : Read Constraints := ofMembersFrom {} [] members

end Constraints

/-- The pointer of a value that reads as a reference: an object with a text under `$ref`, or a
list of one text. -/
def Items.pointer? : Json → Option String
  | .obj members =>
    match members.filter (·.1 = "$ref") with
    | [(_, .str s)] => some s
    | _ => none
  | .arr [.str s] => some s
  | _ => none

/-- The items that a value stands for, given how it reads as a model. A reference comes first. -/
def Items.choose (j : Json) (asModel : Read Model) : Read Items :=
  match Items.pointer? j with
  | some pointer => .ok (.reference pointer)
  | none =>
    match asModel with
    | .ok model => .ok (.inline model)
    | .error _ => fail (.noVariant "ItemsDescriptor")

mutual
def Model.ofJson : Json → Read Model
  | .obj members => do
    let model ← modelMembers {} [] members
    let constraints ← (Constraints.ofMembers members).unplaced
    .ok { model with constraints }
  | j => mismatch "struct ModelDescriptor" j

/-- Reads the members of a model except its constraints. -/
def modelMembers (m : Model) (seen : List String) : List (String × Json) → Read Model
  | [] => .ok m
  | (key, j) :: rest =>
    if key ∈ ["type", "properties", "required", "items", "description"] then
      if key ∈ seen then fail (.duplicateField key)
      else if key = "type" then
        modelMembers { m with kind := .ofJson j } (key :: seen) rest
      else if key = "properties" then do
        let properties ← within (.key key) (fieldTable j)
        modelMembers { m with properties } (key :: seen) rest
      else if key = "required" then do
        let required ← within (.key key) (Read.list Read.text j)
        modelMembers { m with required } (key :: seen) rest
      else if key = "items" then do
        let items ← within (.key key) (optionalItems j)
        modelMembers { m with items } (key :: seen) rest
      else do
        let description ← within (.key key) (Read.optional Read.text j)
        modelMembers { m with description } (key :: seen) rest
    else modelMembers m seen rest

def optionalItems : Json → Read (Option Items)
  | .null => .ok none
  | .obj members => do
    let items ← Items.choose (.obj members) (do
      let model ← modelMembers {} [] members
      let constraints ← (Constraints.ofMembers members).unplaced
      .ok { model with constraints })
    .ok (some items)
  | j => (Items.choose j (mismatch "struct ModelDescriptor" j)).map some

def fieldTable : Json → Read (KeyMap Field)
  | .obj members => fieldEntries [] members
  | j => mismatch "a map" j

def fieldEntries (fields : KeyMap Field) : List (String × Json) → Read (KeyMap Field)
  | [] => .ok fields
  | (key, j) :: rest => do
    let field ← within (.key key) (Field.ofJson j)
    fieldEntries (fields.insert key field) rest

def Field.ofJson : Json → Read Field
  | .obj members => do
    let field ← fieldMembers {} [] members
    let constraints ← (Constraints.ofMembers members).unplaced
    .ok { field with constraints }
  | j => mismatch "struct FieldDescriptor" j

/-- Reads the members of a field except its constraints. -/
def fieldMembers (f : Field) (seen : List String) : List (String × Json) → Read Field
  | [] => .ok f
  | (key, j) :: rest =>
    if key ∈ ["type", "items", "$ref", "description"] then
      if key ∈ seen then fail (.duplicateField key)
      else if key = "type" then
        fieldMembers { f with kind := .ofJson j } (key :: seen) rest
      else if key = "items" then do
        let items ← within (.key key) (optionalItems j)
        fieldMembers { f with items } (key :: seen) rest
      else if key = "$ref" then do
        let pointer ← within (.key key) (Read.optional Read.text j)
        fieldMembers { f with pointer } (key :: seen) rest
      else do
        let description ← within (.key key) (Read.optional Read.text j)
        fieldMembers { f with description } (key :: seen) rest
    else fieldMembers f seen rest
end

def Items.ofJson (j : Json) : Read Items := Items.choose j (Model.ofJson j)

namespace RelationshipEnd

/-- Reads the members of an end; the model must be there. -/
def ofMembersFrom (model : Option String) (field : Option (Option String)) :
    List (String × Json) → Option RelationshipEnd
  | [] => model.map fun name => .field name (field.getD none)
  | (key, j) :: rest =>
    if key = "model" then
      match model, j with
      | none, .str name => ofMembersFrom (some name) field rest
      | _, _ => none
    else if key = "field" then
      match field, j with
      | none, .null => ofMembersFrom model (some none) rest
      | none, .str name => ofMembersFrom model (some (some name)) rest
      | _, _ => none
    else ofMembersFrom model field rest

def ofJson : Json → Read RelationshipEnd
  | .str name => .ok (.model name)
  | .obj members =>
    match ofMembersFrom none none members with
    | some side => .ok side
    | none => fail (.noVariant "RelationshipEnd")
  | _ => fail (.noVariant "RelationshipEnd")

end RelationshipEnd

namespace Relationship

def withMember (r : Relationship) (key : String) (j : Json) : Read Relationship :=
  if key = "from" then (RelationshipEnd.ofJson j).map fun v => { r with source := v }
  else if key = "to" then (RelationshipEnd.ofJson j).map fun v => { r with target := v }
  else if key = "field" then (Read.optional Read.text j).map fun v => { r with field := v }
  else if key = "type" then (Read.optional Read.text j).map fun v => { r with kind := v }
  else if key = "required" then (Read.flag j).map fun v => { r with required := v }
  else .ok r

/-- The member names, in the order of the list form. -/
def names : List String := ["from", "to", "field", "type", "required"]

end Relationship

/-- Reads a record whose members all have defaults: from an object, where a name may occur once
and unknown names are passed over, or from a list in the order of the names. -/
def readMembersFrom {α : Type} (names : List String) (put : α → String → Json → Read α) (a : α)
    (seen : List String) : List (String × Json) → Read α
  | [] => .ok a
  | (key, j) :: rest =>
    if key ∈ names then
      if key ∈ seen then fail (.duplicateField key)
      else do readMembersFrom names put (← within (.key key) (put a key j)) (key :: seen) rest
    else readMembersFrom names put a seen rest

def readListFrom {α : Type} (put : α → String → Json → Read α) (a : α) (total : Nat) :
    Nat → List String → List Json → Read α
  | _, _, [] => .ok a
  | _, [], _ :: _ => fail (.invalidLength total "fewer elements in array")
  | i, key :: names, j :: rest => do
    readListFrom put (← within (.index i) (put a key j)) total (i + 1) names rest

def readRecord {α : Type} (type : String) (names : List String)
    (put : α → String → Json → Read α) (a : α) : Json → Read α
  | .obj members => readMembersFrom names put a [] members
  | .arr items => readListFrom put a items.length 0 names items
  | j => mismatch ("struct " ++ type) j

def Relationship.ofJson (j : Json) : Read Relationship :=
  readRecord "Relationship" Relationship.names Relationship.withMember {} j

def Constraints.ofJson (j : Json) : Read Constraints :=
  readRecord "Constraints" Constraints.names Constraints.withMember {} j

namespace Schema

/-- The entries of a list that read as relationships; anything else holds none. -/
def relationshipsOf (j : Json) : List Relationship :=
  match j.normalize with
  | .arr entries => entries.filterMap fun entry => (Relationship.ofJson entry).toOption
  | _ => []

def modelEntries (models : KeyMap Model) : List (String × Json) → Read (KeyMap Model)
  | [] => .ok models
  | (key, j) :: rest => do
    let model ← within (.key key) (Model.ofJson j)
    modelEntries (models.insert key model) rest

def withMember (s : Schema) (key : String) (j : Json) : Read Schema :=
  if key = "models" then
    match j with
    | .obj members => (modelEntries [] members).map fun models => { s with models }
    | other => mismatch "a map" other
  else if key = "relationships" then .ok { s with relationships := relationshipsOf j }
  else .ok s

def ofJson (j : Json) : Read Schema :=
  readRecord "SchemaDescriptor" ["models", "relationships"] withMember {} j

end Schema
end RecordShape
