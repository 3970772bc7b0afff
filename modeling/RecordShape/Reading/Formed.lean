import RecordShape.Reading.Form

/-!
# Types with a form

A type with a form is read in two steps: the form checks the value and gives it its fixed shape,
and `build` takes the parts out of that shape. `build` is total; on values of another shape its
result has no meaning.
-/

namespace RecordShape

namespace Json

/-- The text of a member, or the empty text. -/
def textAt (key : String) (j : Json) : String := ((j.member? key).bind string?).getD ""

/-- The text of a member, if it has one. -/
def textAt? (key : String) (j : Json) : Option String := (j.member? key).bind string?

/-- The items of a member, or none. -/
def itemsAt (key : String) (j : Json) : List Json := ((j.member? key).bind array?).getD []

def toNat? : Json → Option Nat
  | num (.int n) => if 0 ≤ n then some n.toNat else none
  | _ => none

/-- The size of a member, if it has one. -/
def sizeAt? (key : String) (j : Json) : Option Nat := (j.member? key).bind toNat?

def flagAt (key : String) (j : Json) : Bool := j.member? key = some (bool true)

end Json

class Formed (α : Type) where
  form : Form
  build : Json → α

namespace Formed
variable {α : Type} [Formed α]

def ofJson (j : Json) : Read α := ((form α).ofJson j).map build

def ofText (text : String) : Read α := ((form α).ofText text).map build

/-- The member of a record that holds a list. -/
def buildList (key : String) (j : Json) : List α := (j.itemsAt key).map build

/-- A member that may be missing. -/
def buildAt (default : α) (key : String) (j : Json) : α :=
  match j.member? key with
  | some part => build part
  | none => default

end Formed

instance : Formed String := ⟨.text, fun j => j.string?.getD ""⟩
instance : Formed Nat := ⟨.size, fun j => j.toNat?.getD 0⟩
instance : Formed Bool := ⟨.flag, fun j => j = .bool true⟩

end RecordShape
