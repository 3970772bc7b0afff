import RecordShape.Compile.Document

/-!
# Compiling in a session

A session serves one call after another. It collects the diagnostics of all calls and, while a call
is being served, the keys that lead to the node at hand, which diagnostics name as their subject.
-/

namespace RecordShape

/-- The state of a session between two steps. -/
structure Session where
  options : CompileOptions := {}
  diagnostics : List Diagnostic := []
  location : List String := []

namespace Session

/-- A session that has served no call yet. -/
def fresh (options : CompileOptions) : Session := { options }

def record (d : Diagnostic) : StateM Session Unit :=
  modify fun s => { s with diagnostics := s.diagnostics ++ [d] }

def enter (key : String) : StateM Session Unit :=
  modify fun s => { s with location := s.location ++ [key] }

def leave : StateM Session Unit := modify fun s => { s with location := s.location.dropLast }

/-- Does what is to be done at the node under a key. -/
def inside {α : Type} (key : String) (x : StateM Session α) : StateM Session α := do
  enter key
  let a ← x
  leave
  return a

/-- The text for the node at hand. -/
def subject : StateM Session String := return Compile.subject (← get).location

/-- The placeholder where something is amiss. -/
def degraded (d : Diagnostic) : StateM Session Shape := do
  record d
  return .anyObject

def pattern (source : Option String) : StateM Session (Option Pattern) := do
  match source with
  | none => return none
  | some source =>
    match Pattern.ofSource source with
    | .ok pattern => return some pattern
    | .error message =>
      record (.invalidPattern (← subject) source message)
      return none

def string (c : Constraints) : StateM Session Shape := do
  match c.stringValues with
  | [only] => return .literal only
  | _ :: _ :: _ => return .oneOf c.stringValues
  | [] =>
    if c.hasUnusableValues then record (.emptyEnum (← subject))
    let pattern ← pattern c.pattern
    return .string
      { format := c.format.bind StringFormat.ofName?
        minLength := c.minLength
        maxLength := c.maxLength
        pattern }

def unknownKind (tag : String) : StateM Session Shape := do
  degraded (.unknownType (← subject) tag)

section
variable (follow : String → StateM Session Shape)

mutual
/-- Compiles a model; `follow` says what a pointer leads to. -/
def model : Model → StateM Session Shape
  | ⟨kind, properties, required, elements, constraints, _⟩ => do
    let shape ← match kind with
      | .object => do
        let fields ← fields required properties
        pure (.object ⟨fields, (← get).options.unknownKeys⟩)
      | .array => do
        let items ← items elements
        pure (.array items)
      | .string => string constraints
      | .number => pure (Compile.number false constraints)
      | .integer => pure (Compile.number true constraints)
      | .boolean => pure .boolean
      | .null => pure .null
      | .other tag => unknownKind tag
    return Compile.nullable constraints shape

/-- Compiles the fields of an object, each under its name. -/
def fields (required : List String) :
    List (String × Field) → StateM Session (List (String × ShapeField))
  | [] => return []
  | (name, f) :: rest => do
    let shape ← inside name (field f)
    let others ← fields required rest
    return (name, ⟨shape, !required.contains name⟩) :: others

def field : Field → StateM Session Shape
  | ⟨kind, constraints, elements, pointer, _⟩ => do
    let shape ← match kind with
      | .string => string constraints
      | .number => pure (Compile.number false constraints)
      | .integer => pure (Compile.number true constraints)
      | .boolean => pure .boolean
      | .null => pure .null
      | .array => do
        let items ← items elements
        pure (.array items)
      | .object => objectField pointer elements
      | .other tag =>
        if tag.isEmpty && pointer.isSome then objectField pointer elements else unknownKind tag
    return Compile.nullable constraints shape

def objectField (pointer : Option String) : Option Items → StateM Session Shape
  | none =>
    match pointer with
    | some target => follow target
    | none => return .anyObject
  | some (.reference itemPointer) =>
    match pointer with
    | some target => follow target
    | none => follow itemPointer
  | some (.inline inner) =>
    match pointer with
    | some target => follow target
    | none => model inner

def items : Option Items → StateM Session Shape
  | none => return .array .anyObject
  | some (.reference pointer) => follow pointer
  | some (.inline inner) => model inner
end

/-- Compiles the properties of a model, whatever its kind. -/
def object (m : Model) : StateM Session ObjectShape := do
  let fields ← fields follow m.required m.properties
  return ⟨fields, (← get).options.unknownKeys⟩

end

/-- What a pointer leads to in a context; `fuel` bounds the models still to be expanded. -/
def resolve : Nat → Option Context → String → StateM Session Shape
  | _, none, pointer => degraded (.missingRegistry (Pointer.modelName pointer))
  | fuel, some ctx, pointer =>
    let name := Pointer.modelName pointer
    match ctx.descend name with
    | .cycle => degraded (.cyclicReference name ctx.trail)
    | .tooDeep => degraded (.depthExceeded name ctx.trail ctx.maxDepth)
    | .proceed next =>
      match next.lookup name, fuel with
      | none, _ | some _, 0 => degraded (.danglingReference name ctx.trail)
      | some target, fuel + 1 => model (resolve fuel (some next)) target

def follow (ctx : Option Context) : String → StateM Session Shape :=
  resolve (Compile.fuelFor ctx) ctx

/-- Compiles the rows of the given models, each with a context of its own. -/
def rowsOf (s : Schema) : List (String × Model) → StateM Session (List (String × Shape))
  | [] => return []
  | (name, m) :: rest => do
    if m.isFixture then
      let ctx := Context.root s (← get).options.maxDepth
      let row ← inside name (model (follow (some ctx)) m)
      let others ← rowsOf s rest
      return (name, .array row) :: others
    else rowsOf s rest

def fullDocument (s : Schema) : StateM Session ObjectShape :=
  return Compile.assemble (← rowsOf s s.models) false

def partialDocument (s : Schema) : StateM Session ObjectShape :=
  return Compile.assemble (← rowsOf s s.models) true

def documents (s : Schema) : StateM Session Documents := do
  let rows ← rowsOf s s.models
  return ⟨Compile.assemble rows false, Compile.assemble rows true⟩

end Session

/-- What can be asked of a session. References are followed in the given context, if there is
one. -/
inductive Call where
  | field (f : Field) (ctx : Option Context)
  | model (m : Model) (ctx : Option Context)
  | object (m : Model) (ctx : Option Context)
  | items (items : Option Items) (ctx : Option Context)
  | resolve (pointer : String) (ctx : Option Context)
  | fullDocument (s : Schema)
  | partialDocument (s : Schema)
  | documents (s : Schema)

inductive Answer where
  | shape (shape : Shape)
  | object (shape : ObjectShape)
  | documents (documents : Documents)

namespace Call

/-- Serves a call. -/
def serve : Call → StateM Session Answer
  | field f ctx => return .shape (← Session.field (Session.follow ctx) f)
  | model m ctx => return .shape (← Session.model (Session.follow ctx) m)
  | object m ctx => return .object (← Session.object (Session.follow ctx) m)
  | items i ctx => return .shape (← Session.items (Session.follow ctx) i)
  | resolve pointer ctx => return .shape (← Session.follow ctx pointer)
  | fullDocument s => return .object (← Session.fullDocument s)
  | partialDocument s => return .object (← Session.partialDocument s)
  | documents s => return .documents (← Session.documents s)

/-- Serves one call after another. -/
def serveAll : List Call → StateM Session (List Answer)
  | [] => return []
  | call :: rest => do
    let answer ← call.serve
    let others ← serveAll rest
    return answer :: others

end Call
end RecordShape
