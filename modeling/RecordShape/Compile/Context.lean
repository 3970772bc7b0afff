import RecordShape.Schema.Basic

/-!
# Following references

A context is one path of references: the models that are being expanded, outermost first, and a
bound on their number. Following a reference gives a new context and leaves the old one as it is,
so a model reached twice beside itself is no cycle.
-/

namespace RecordShape

structure Context where
  schema : Schema
  maxDepth : Nat
  visited : List String := []
  depth : Nat := 0

/-- What becomes of following a reference to a named model. -/
inductive Descent where
  | proceed (next : Context)
  /-- The model is being expanded already. -/
  | cycle
  /-- No further reference may be followed. -/
  | tooDeep

namespace Context

def root (schema : Schema) (maxDepth : Nat) : Context := { schema, maxDepth }

def lookup (ctx : Context) (name : String) : Option Model := ctx.schema.model? name

def isVisited (ctx : Context) (name : String) : Bool := ctx.visited.contains name

/-- The path as text. -/
def trail (ctx : Context) : String :=
  if ctx.visited.isEmpty then "<root>" else " -> ".intercalate ctx.visited

/-- Follows a reference, unless its target is on the path or the path is too long. -/
def descend (ctx : Context) (name : String) : Descent :=
  if ctx.isVisited name then .cycle
  else if ctx.maxDepth ≤ ctx.depth then .tooDeep
  else .proceed { ctx with visited := ctx.visited ++ [name], depth := ctx.depth + 1 }

end Context
end RecordShape
