import RecordShape.Compile.Compiler

/-!
# Fixture documents

A fixture document is an object with a list of rows for every model that can have rows. A full
document has all of these keys, a partial one any of them.
-/

namespace RecordShape

namespace Compile

/-- The rows of the given models, each compiled with a context of its own. -/
def rowsOf (compiler : Compiler) : List (String × Model) → Compiled (List (String × Shape))
  | [] => pure []
  | (name, model) :: rest =>
    if model.isFixture then do
      let row ← compiler.modelAt [name] model
      let others ← rowsOf compiler rest
      return (name, .array row) :: others
    else rowsOf compiler rest

@[simp] theorem value_rowsOf (compiler : Compiler) (models : List (String × Model)) :
    (rowsOf compiler models).value = (models.filter fun m => m.2.isFixture).map fun m =>
      (m.1, .array (compiler.modelAt [m.1] m.2).value) := by
  induction models with
  | nil => rfl
  | cons m rest ih =>
    obtain ⟨name, model⟩ := m
    cases h : model.isFixture <;> simp [rowsOf, h, ih]

@[simp] theorem diagnostics_rowsOf (compiler : Compiler) (models : List (String × Model)) :
    (rowsOf compiler models).diagnostics = (models.filter fun m => m.2.isFixture).flatMap fun m =>
      (compiler.modelAt [m.1] m.2).diagnostics := by
  induction models with
  | nil => rfl
  | cons m rest ih =>
    obtain ⟨name, model⟩ := m
    cases h : model.isFixture <;> simp [rowsOf, h, ih]

def rows (options : CompileOptions) (schema : Schema) : Compiled (List (String × Shape)) :=
  rowsOf (.ofSchema options schema) schema.models

/-- The document with the given rows. -/
def assemble (rows : List (String × Shape)) (isOptional : Bool) : ObjectShape :=
  ⟨rows.map fun row => (row.1, ⟨row.2, isOptional⟩), .allow⟩

theorem assemble_rows (options : CompileOptions) (schema : Schema) (isOptional : Bool) :
    assemble (rows options schema).value isOptional =
      ⟨(schema.models.filter fun m => m.2.isFixture).map fun m =>
        (m.1, ⟨.array ((Compiler.ofSchema options schema).modelAt [m.1] m.2).value, isOptional⟩),
        .allow⟩ := by
  simp only [assemble, rows, value_rowsOf, List.map_map, Function.comp_def]

end Compile

/-- Both documents of a schema. -/
structure Documents where
  full : ObjectShape
  part : ObjectShape

namespace Schema

def fullDocument (schema : Schema) (options : CompileOptions) : Compiled ObjectShape := do
  return Compile.assemble (← Compile.rows options schema) false

def partialDocument (schema : Schema) (options : CompileOptions) : Compiled ObjectShape := do
  return Compile.assemble (← Compile.rows options schema) true

def documents (schema : Schema) (options : CompileOptions) : Compiled Documents := do
  let rows ← Compile.rows options schema
  return ⟨Compile.assemble rows false, Compile.assemble rows true⟩

@[simp] theorem value_fullDocument (s : Schema) (options : CompileOptions) :
    (s.fullDocument options).value = Compile.assemble (Compile.rows options s).value false := rfl

@[simp] theorem value_partialDocument (s : Schema) (options : CompileOptions) :
    (s.partialDocument options).value = Compile.assemble (Compile.rows options s).value true := rfl

@[simp] theorem diagnostics_fullDocument (s : Schema) (options : CompileOptions) :
    (s.fullDocument options).diagnostics = (Compile.rows options s).diagnostics :=
  List.append_nil _

@[simp] theorem diagnostics_partialDocument (s : Schema) (options : CompileOptions) :
    (s.partialDocument options).diagnostics = (Compile.rows options s).diagnostics :=
  List.append_nil _

@[simp] theorem diagnostics_documents (s : Schema) (options : CompileOptions) :
    (s.documents options).diagnostics = (Compile.rows options s).diagnostics :=
  List.append_nil _

theorem mem_diagnostics_rows {s : Schema} {options : CompileOptions} {d : Diagnostic} :
    d ∈ (Compile.rows options s).diagnostics ↔ ∃ name m, (name, m) ∈ s.models ∧
      m.isFixture = true ∧ d ∈ ((Compiler.ofSchema options s).modelAt [name] m).diagnostics := by
  simp only [Compile.rows, Compile.diagnostics_rowsOf, List.mem_flatMap, List.mem_filter,
    Prod.exists, and_assoc]

end Schema
end RecordShape
