/-!
# Unique identifiers

Five groups of hexadecimal digits with dashes between them.
-/

namespace RecordShape.UniqueId

def isHex (c : Char) : Bool :=
  ('0' ≤ c && c ≤ '9') || ('a' ≤ c && c ≤ 'f') || ('A' ≤ c && c ≤ 'F')

/-- Groups of the given sizes, and nothing after the last. -/
def groups : List Nat → List Char → Bool
  | [], s => s.isEmpty
  | [n], s => s.length = n && s.all isHex
  | n :: sizes, s =>
    (s.take n).length = n && (s.take n).all isHex &&
      match s.drop n with
      | '-' :: rest => groups sizes rest
      | _ => false

def isIdentifier (s : String) : Bool := groups [8, 4, 4, 4, 12] s.toList

end RecordShape.UniqueId
