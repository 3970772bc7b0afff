/-!
# Pointers to models

A pointer names the model after its last slash. A file suffix `.schema.json` or `.json` is not
part of the name.
-/

namespace RecordShape.Pointer

/-- The characters after the last slash. -/
def lastSegment (s : List Char) : List Char := (s.reverse.takeWhile (· ≠ '/')).reverse

/-- The list without an ending, if it ends so. -/
def dropEnding? (ending s : List Char) : Option (List Char) :=
  if ending.isSuffixOf s then some (s.take (s.length - ending.length)) else none

/-- The name of the model a pointer leads to. -/
def modelName (pointer : String) : String :=
  let segment := lastSegment pointer.toList
  String.ofList <|
    match dropEnding? ".schema.json".toList segment with
    | some name => name
    | none => (dropEnding? ".json".toList segment).getD segment

end RecordShape.Pointer
