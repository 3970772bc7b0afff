import RecordShape.Compile.Context
import RecordShape.Compile.Options
import RecordShape.Diagnostics
import RecordShape.Schema.Pointer

/-!
# From models to shapes

Compiling never fails. Where a model asks for something that cannot be had, such as an unknown
kind, a broken pattern or a reference that leads nowhere or back, the shape is looser and a
diagnostic says so. References are followed along one path at a time, and every model on a path
is different, so the number of models bounds the length of every path.
-/

namespace RecordShape

/-- A result together with the diagnostics that arose, in order. -/
structure Compiled (α : Type) where
  value : α
  diagnostics : List Diagnostic := []

namespace Compiled

instance : Monad Compiled where
  pure a := ⟨a, []⟩
  bind x f :=
    let y := f x.value
    ⟨y.value, x.diagnostics ++ y.diagnostics⟩

def note (d : Diagnostic) : Compiled Unit := ⟨(), [d]⟩

/-- The placeholder where something is amiss. -/
def degraded (d : Diagnostic) : Compiled Shape := ⟨.anyObject, [d]⟩

variable {α β : Type}

@[simp] theorem value_pure (a : α) : (pure a : Compiled α).value = a := rfl

@[simp] theorem diagnostics_pure (a : α) : (pure a : Compiled α).diagnostics = [] := rfl

@[simp] theorem value_bind (x : Compiled α) (f : α → Compiled β) :
    (x >>= f).value = (f x.value).value := rfl

@[simp] theorem diagnostics_bind (x : Compiled α) (f : α → Compiled β) :
    (x >>= f).diagnostics = x.diagnostics ++ (f x.value).diagnostics := rfl

@[simp] theorem diagnostics_note (d : Diagnostic) : (note d).diagnostics = [d] := rfl

@[simp] theorem value_degraded (d : Diagnostic) : (degraded d).value = .anyObject := rfl

@[simp] theorem diagnostics_degraded (d : Diagnostic) : (degraded d).diagnostics = [d] := rfl

end Compiled

namespace Compile

/-- The keys that lead to the node being compiled, as a text for diagnostics. -/
def subject (location : List String) : String :=
  if location.isEmpty then "<inline>" else ".".intercalate location

/-- The pattern of a string; a broken one is dropped. -/
def pattern (location : List String) : Option String → Compiled (Option Pattern)
  | none => pure none
  | some source =>
    match Pattern.ofSource source with
    | .ok pattern => pure (some pattern)
    | .error message => do
      Compiled.note (.invalidPattern (subject location) source message)
      return none

/-- Strings: listed values first, and only without them the rules. -/
def string (location : List String) (c : Constraints) : Compiled Shape :=
  match c.stringValues with
  | [only] => pure (.literal only)
  | _ :: _ :: _ => pure (.oneOf c.stringValues)
  | [] => do
    if c.hasUnusableValues then Compiled.note (.emptyEnum (subject location))
    let pattern ← pattern location c.pattern
    return .string
      { format := c.format.bind StringFormat.ofName?
        minLength := c.minLength
        maxLength := c.maxLength
        pattern }

def number (integer : Bool) (c : Constraints) : Shape :=
  .number { integer, minimum := c.minimum, maximum := c.maximum }

/-- Adds `null` if the constraints ask for it. -/
def nullable (c : Constraints) (shape : Shape) : Shape := if c.nullable then shape.orNull else shape

/-- A kind that is not known. -/
def unknownKind (location : List String) (tag : String) : Compiled Shape :=
  Compiled.degraded (.unknownType (subject location) tag)

variable (options : CompileOptions) (follow : List String → String → Compiled Shape)

mutual
/-- The shape of a model at a location; `follow` says what a pointer leads to. -/
def model (location : List String) : Model → Compiled Shape
  | ⟨kind, properties, required, elements, constraints, _⟩ => do
    let shape ← match kind with
      | .object => do
        let fields ← fields location required properties
        pure (.object ⟨fields, options.unknownKeys⟩)
      | .array => do
        let items ← items location elements
        pure (.array items)
      | .string => string location constraints
      | .number => pure (number false constraints)
      | .integer => pure (number true constraints)
      | .boolean => pure .boolean
      | .null => pure .null
      | .other tag => unknownKind location tag
    return nullable constraints shape

/-- The fields of an object; those not required are optional. -/
def fields (location : List String) (required : List String) :
    List (String × Field) → Compiled (List (String × ShapeField))
  | [] => pure []
  | (name, f) :: rest => do
    let shape ← field (location ++ [name]) f
    let others ← fields location required rest
    return (name, ⟨shape, !required.contains name⟩) :: others

/-- The shape of a field. A field without a kind but with a pointer counts as an object. -/
def field (location : List String) : Field → Compiled Shape
  | ⟨kind, constraints, elements, pointer, _⟩ => do
    let shape ← match kind with
      | .string => string location constraints
      | .number => pure (number false constraints)
      | .integer => pure (number true constraints)
      | .boolean => pure .boolean
      | .null => pure .null
      | .array => do
        let items ← items location elements
        pure (.array items)
      | .object => objectField location pointer elements
      | .other tag =>
        if tag.isEmpty && pointer.isSome then objectField location pointer elements
        else unknownKind location tag
    return nullable constraints shape

/-- An object field: what it points at, else its nested shape, else any object. -/
def objectField (location : List String) (pointer : Option String) :
    Option Items → Compiled Shape
  | none =>
    match pointer with
    | some target => follow location target
    | none => pure .anyObject
  | some (.reference itemPointer) =>
    match pointer with
    | some target => follow location target
    | none => follow location itemPointer
  | some (.inline inner) =>
    match pointer with
    | some target => follow location target
    | none => model location inner

/-- The shape of items. Items that are not described are lists of any objects. -/
def items (location : List String) : Option Items → Compiled Shape
  | none => pure (.array .anyObject)
  | some (.reference pointer) => follow location pointer
  | some (.inline inner) => model location inner
end

@[simp] theorem value_fields (location required : List String)
    (properties : List (String × Field)) :
    (fields options follow location required properties).value = properties.map fun p =>
      (p.1, ⟨(field options follow (location ++ [p.1]) p.2).value, !required.contains p.1⟩) := by
  induction properties with
  | nil => rfl
  | cons p rest ih =>
    simp only [fields, Compiled.value_bind, Compiled.value_pure, List.map_cons, ih]

@[simp] theorem diagnostics_fields (location required : List String)
    (properties : List (String × Field)) :
    (fields options follow location required properties).diagnostics =
      properties.flatMap fun p => (field options follow (location ++ [p.1]) p.2).diagnostics := by
  induction properties with
  | nil => rfl
  | cons p rest ih =>
    simp only [fields, Compiled.diagnostics_bind, Compiled.diagnostics_pure, List.flatMap_cons, ih,
      List.append_nil]

/-- What a pointer leads to in a context; `fuel` bounds the models still to be expanded. -/
def resolve : Nat → Option Context → List String → String → Compiled Shape
  | _, none, _, pointer => Compiled.degraded (.missingRegistry (Pointer.modelName pointer))
  | fuel, some ctx, location, pointer =>
    let name := Pointer.modelName pointer
    match ctx.descend name with
    | .cycle => Compiled.degraded (.cyclicReference name ctx.trail)
    | .tooDeep => Compiled.degraded (.depthExceeded name ctx.trail ctx.maxDepth)
    | .proceed next =>
      match next.lookup name, fuel with
      | none, _ | some _, 0 => Compiled.degraded (.danglingReference name ctx.trail)
      | some target, fuel + 1 => model options (resolve fuel (some next)) location target

/-- Enough fuel for every path of references in a context. -/
def fuelFor : Option Context → Nat
  | none => 0
  | some ctx => ctx.schema.models.length

end Compile

/-- What a node is compiled with: the options and the context of its references, if there is a
schema to look them up in. -/
structure Compiler where
  options : CompileOptions := {}
  context : Option Context := none

namespace Compiler

/-- References are followed from a fresh context of the schema. -/
def ofSchema (options : CompileOptions) (schema : Schema) : Compiler :=
  { options, context := some (.root schema options.maxDepth) }

def follow (c : Compiler) : List String → String → Compiled Shape :=
  Compile.resolve c.options (Compile.fuelFor c.context) c.context

def field (c : Compiler) (f : Field) : Compiled Shape := Compile.field c.options c.follow [] f

def modelAt (c : Compiler) (location : List String) (m : Model) : Compiled Shape :=
  Compile.model c.options c.follow location m

def model (c : Compiler) (m : Model) : Compiled Shape := c.modelAt [] m

/-- The shape of the properties of a model, whatever its kind. -/
def object (c : Compiler) (m : Model) : Compiled ObjectShape := do
  let fields ← Compile.fields c.options c.follow [] m.required m.properties
  return ⟨fields, c.options.unknownKeys⟩

def items (c : Compiler) (i : Option Items) : Compiled Shape :=
  Compile.items c.options c.follow [] i

def resolve (c : Compiler) (pointer : String) : Compiled Shape := c.follow [] pointer

end Compiler
end RecordShape
