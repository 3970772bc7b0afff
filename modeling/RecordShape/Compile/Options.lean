import RecordShape.Shape.Basic

/-!
# Options of compiling

How deep references are followed, and what compiled objects do with undeclared keys.
-/

namespace RecordShape

def defaultMaxDepth : Nat := 10

structure CompileOptions where
  maxDepth : Nat := defaultMaxDepth
  unknownKeys : UnknownKeys := .allow
  deriving DecidableEq, Inhabited

namespace CompileOptions

def toJson (o : CompileOptions) : Json :=
  .obj [("max_depth", .ofNat o.maxDepth), ("unknown_keys", o.unknownKeys.toJson)]

instance : Formed CompileOptions where
  form := .record "CompileOptions"
    [("max_depth", .size), ("unknown_keys", Formed.form UnknownKeys)] []
  build j :=
    { maxDepth := Formed.buildAt defaultMaxDepth "max_depth" j
      unknownKeys := Formed.buildAt .allow "unknown_keys" j }

end CompileOptions
end RecordShape
