import RecordShape.KeyMap
import RecordShape.Decimal.Double

/-!
# JSON values

A number is an integer between `-2^63` and `2^64 - 1` or a double. The members of an object keep
the order of the text they were read from; `Json.normalize` turns them into maps by key, in which
the last member of a name counts.
-/

namespace RecordShape

inductive Number where
  | int (value : Int)
  | double (value : Double)
  deriving DecidableEq, Inhabited

namespace Number

/-- The number as a double, rounded to the nearest one. -/
def toDouble : Number → Double
  | int n => Double.ofInt n
  | double x => x

end Number

inductive Json where
  | null
  | bool (value : Bool)
  | num (value : Number)
  | str (value : String)
  | arr (items : List Json)
  | obj (members : List (String × Json))
  deriving Inhabited

namespace Json

mutual
private def decEq : (a b : Json) → Decidable (a = b)
  | null, b => by cases b <;> first | exact isTrue rfl | exact isFalse (by simp)
  | bool x, b => by
    cases b with
    | bool y => exact decidable_of_iff (x = y) (by simp)
    | _ => exact isFalse (by simp)
  | num x, b => by
    cases b with
    | num y => exact decidable_of_iff (x = y) (by simp)
    | _ => exact isFalse (by simp)
  | str x, b => by
    cases b with
    | str y => exact decidable_of_iff (x = y) (by simp)
    | _ => exact isFalse (by simp)
  | arr x, b => by
    cases b with
    | arr y => exact @decidable_of_iff _ (x = y) (by simp) (decEqItems x y)
    | _ => exact isFalse (by simp)
  | obj x, b => by
    cases b with
    | obj y => exact @decidable_of_iff _ (x = y) (by simp) (decEqMembers x y)
    | _ => exact isFalse (by simp)

private def decEqItems : (a b : List Json) → Decidable (a = b)
  | [], [] => isTrue rfl
  | [], _ :: _ => isFalse (by simp)
  | _ :: _, [] => isFalse (by simp)
  | x :: xs, y :: ys =>
    @decidable_of_iff _ (x = y ∧ xs = ys) (by simp)
      (@instDecidableAnd _ _ (decEq x y) (decEqItems xs ys))

private def decEqMembers : (a b : List (String × Json)) → Decidable (a = b)
  | [], [] => isTrue rfl
  | [], _ :: _ => isFalse (by simp)
  | _ :: _, [] => isFalse (by simp)
  | (k, x) :: xs, (l, y) :: ys =>
    @decidable_of_iff _ (k = l ∧ x = y ∧ xs = ys) (by simp [and_assoc])
      (@instDecidableAnd _ _ inferInstance
        (@instDecidableAnd _ _ (decEq x y) (decEqMembers xs ys)))
end

instance : DecidableEq Json := decEq

theorem sizeOf_element_lt {elements : List Json} {e : Json} (h : e ∈ elements) :
    sizeOf e < sizeOf (Json.arr elements) := by
  have hlt := List.sizeOf_lt_of_mem h
  simp only [Json.arr.sizeOf_spec]
  omega

theorem sizeOf_member_lt {members : List (String × Json)} {key : String} {j : Json}
    (h : (key, j) ∈ members) : sizeOf j < sizeOf (Json.obj members) := by
  have hlt := List.sizeOf_lt_of_mem h
  simp only [Prod.mk.sizeOf_spec] at hlt
  simp only [Json.obj.sizeOf_spec]
  omega

mutual
/-- Every object as a map by key. -/
def normalize : Json → Json
  | arr items => arr (normalizeItems items)
  | obj members => obj (KeyMap.ofList (normalizeMembers members))
  | value => value

def normalizeItems : List Json → List Json
  | [] => []
  | x :: xs => normalize x :: normalizeItems xs

def normalizeMembers : List (String × Json) → List (String × Json)
  | [] => []
  | (k, x) :: xs => (k, normalize x) :: normalizeMembers xs
end

def isNull : Json → Bool
  | null => true
  | _ => false

def string? : Json → Option String
  | str s => some s
  | _ => none

def array? : Json → Option (List Json)
  | arr items => some items
  | _ => none

def object? : Json → Option (List (String × Json))
  | obj members => some members
  | _ => none

def number? : Json → Option Number
  | num n => some n
  | _ => none

/-- The member of a name. -/
def member? (key : String) : Json → Option Json
  | obj members => KeyMap.find? key members
  | _ => none

/-- The name of the value's kind. -/
def kindName : Json → String
  | null => "null"
  | bool _ => "boolean"
  | num _ => "number"
  | str _ => "string"
  | arr _ => "array"
  | obj _ => "object"

/-- The members of an object that are present, in the order given. -/
def ofMembers (members : List (String × Option Json)) : Json :=
  obj (members.filterMap fun m => m.2.map (m.1, ·))

def ofNat (n : Nat) : Json := num (.int n)

def strings (texts : List String) : Json := arr (texts.map str)

end Json
end RecordShape
