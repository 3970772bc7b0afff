import RecordShape.Format.Basic
import RecordShape.Pattern.Basic

/-!
# Shapes of values

A shape says which JSON values are acceptable. Shapes are finite trees: where a schema cannot be
followed further, the shape is `anyObject`.
-/

namespace RecordShape

/-- What an object does with keys it does not declare. -/
inductive UnknownKeys where
  | allow
  | reject
  deriving DecidableEq, Inhabited

namespace UnknownKeys

def name : UnknownKeys → String
  | allow => "allow"
  | reject => "reject"

def toJson (keys : UnknownKeys) : Json := .str keys.name

instance : Formed UnknownKeys where
  form := .choice ["allow", "reject"]
  build j := if j = .str "reject" then reject else allow

end UnknownKeys

structure StringRules where
  format : Option StringFormat := none
  minLength : Option Nat := none
  maxLength : Option Nat := none
  pattern : Option Pattern := none
  deriving DecidableEq

/-- What is asked of a number. The bounds are finite, as all bounds are that JSON can state. Rules
that are put together by hand could also have an infinite bound or one that is no number; such
rules are left out here, and so is the `null` that would be exported for their bounds. -/
structure NumberRules where
  integer : Bool := false
  minimum : Option Double := none
  maximum : Option Double := none
  deriving DecidableEq

/-- Equality of rules, for which equal bounds are the same bound. -/
def NumberRules.same (a b : NumberRules) : Bool :=
  let sameBound : Option Double → Option Double → Bool
    | none, none => true
    | some x, some y => x.same y
    | _, _ => false
  a.integer == b.integer && sameBound a.minimum b.minimum && sameBound a.maximum b.maximum

mutual
inductive Shape where
  /-- Any object, whatever it holds. -/
  | anyObject
  | null
  | boolean
  | number (rules : NumberRules)
  | string (rules : StringRules)
  /-- Exactly this string. -/
  | literal (text : String)
  | oneOf (options : List String)
  | array (items : Shape)
  | object (shape : ObjectShape)
  /-- The inner shape or `null`. -/
  | nullable (inner : Shape)

/-- What is declared for a key. -/
structure ShapeField where
  shape : Shape
  isOptional : Bool

structure ObjectShape where
  fields : List (String × ShapeField)
  unknownKeys : UnknownKeys
end

instance : Inhabited Shape := ⟨.anyObject⟩
instance : Inhabited ObjectShape := ⟨⟨[], .allow⟩⟩

namespace Shape

/-- The shape or `null`; nothing is added to a shape that admits `null` already. -/
def orNull : Shape → Shape
  | nullable inner => nullable inner
  | null => null
  | shape => nullable shape

def isAnyObject : Shape → Bool
  | anyObject => true
  | _ => false

mutual
/-- Equality of shapes, for which equal bounds are the same bound. -/
def same : Shape → Shape → Bool
  | anyObject, anyObject | null, null | boolean, boolean => true
  | number a, number b => a.same b
  | string a, string b => a = b
  | literal a, literal b => a = b
  | oneOf a, oneOf b => a = b
  | array a, array b => same a b
  | object ⟨a, keys⟩, object ⟨b, keys'⟩ => sameFields a b && keys = keys'
  | nullable a, nullable b => same a b
  | _, _ => false

def sameFields : List (String × ShapeField) → List (String × ShapeField) → Bool
  | [], [] => true
  | (k, ⟨a, optional⟩) :: as, (l, ⟨b, optional'⟩) :: bs =>
    k = l && same a b && optional = optional' && sameFields as bs
  | _, _ => false
end

end Shape

namespace ObjectShape

def empty : ObjectShape := default

def insert (o : ObjectShape) (key : String) (shape : Shape) (isOptional : Bool) : ObjectShape :=
  { o with fields := KeyMap.insert key ⟨shape, isOptional⟩ o.fields }

def field? (o : ObjectShape) (key : String) : Option ShapeField := KeyMap.find? key o.fields

def keys (o : ObjectShape) : List String := KeyMap.keys o.fields

def same (a b : ObjectShape) : Bool := Shape.same (.object a) (.object b)

end ObjectShape
end RecordShape
