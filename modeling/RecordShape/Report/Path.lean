import RecordShape.Reading.Formed

/-!
# Paths into a value

A path leads from a value to a part of it by keys of objects and indices of arrays.
-/

namespace RecordShape

inductive PathSegment where
  | key (name : String)
  | index (i : Nat)
  deriving DecidableEq, Inhabited

abbrev Path := List PathSegment

namespace PathSegment

def text : PathSegment → String
  | key name => "." ++ name
  | index i => "[" ++ toString i ++ "]"

def toJson : PathSegment → Json
  | key name => .obj [("Key", .str name)]
  | index i => .obj [("Index", .ofNat i)]

instance : Formed PathSegment where
  form := .variant [("Key", some .text), ("Index", some .size)]
  build
    | .obj [("Key", j)] => key (Formed.build j)
    | .obj [(_, j)] => index (Formed.build j)
    | _ => default

end PathSegment

/-- The text of a path: `.key` and `[index]` in turn, and `<root>` for the value itself. -/
def Path.text (path : Path) : String :=
  if path.isEmpty then "<root>" else String.join (path.map PathSegment.text)

end RecordShape
