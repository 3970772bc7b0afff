import RecordShape.Reading.Error

/-!
# Reading the simple kinds from a JSON value

Texts, flags, sizes, doubles and lists of them, each with the error that says what was expected.
-/

namespace RecordShape.Read
variable {α : Type}

def text : Json → Read String
  | .str s => .ok s
  | j => mismatch "a string" j

def flag : Json → Read Bool
  | .bool b => .ok b
  | j => mismatch "a boolean" j

def double : Json → Read Double
  | .num n => .ok n.toDouble
  | j => mismatch "f64" j

/-- A length or a bound on lengths: an integer that is not negative. -/
def size : Json → Read Nat
  | .num (.int n) => if 0 ≤ n then .ok n.toNat else fail (.invalidValue (.int n) "usize")
  | j => mismatch "usize" j

/-- Reads `null` as nothing. -/
def optional (read : Json → Read α) : Json → Read (Option α)
  | .null => .ok none
  | j => (read j).map some

def itemsFrom (read : Json → Read α) : Nat → List Json → Read (List α)
  | _, [] => .ok []
  | i, j :: rest => do
    let a ← within (.index i) (read j)
    let as ← itemsFrom read (i + 1) rest
    .ok (a :: as)

def list (read : Json → Read α) : Json → Read (List α)
  | .arr items => itemsFrom read 0 items
  | j => mismatch "a sequence" j

end RecordShape.Read
