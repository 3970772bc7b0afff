import RecordShape.Schema.Pointer
import RecordShape.Schema.Basic
import RecordShape.Reading.Formed

/-!
# Where references occur

The references of a model that compiling it would follow, each with the place where it sits.
-/

namespace RecordShape

/-- One step from a model to a reference: a property, or items. -/
inductive SiteSegment where
  | field (name : String)
  | items
  deriving DecidableEq, Inhabited

abbrev Site := List SiteSegment

namespace SiteSegment

def text : SiteSegment → String
  | field name => "." ++ name
  | items => "[]"

instance : Formed SiteSegment where
  form := .variant [("Field", some .text), ("Items", none)]
  build
    | .obj [(_, j)] => field (Formed.build j)
    | _ => items

end SiteSegment

def Site.text (site : Site) : String :=
  if site.isEmpty then "<root>" else String.join (site.map SiteSegment.text)

/-- A reference at its site. -/
structure Occurrence where
  site : Site
  pointer : String
  deriving DecidableEq

namespace Occurrence

/-- The name of the model that is referred to. -/
def target (o : Occurrence) : String := Pointer.modelName o.pointer

mutual
def inModel (site : Site) : Model → List Occurrence
  | ⟨.object, properties, _, _, _, _⟩ => inFields site properties
  | ⟨.array, _, _, items, _, _⟩ => inItems (site ++ [.items]) items
  | _ => []

def inFields (site : Site) : List (String × Field) → List Occurrence
  | [] => []
  | (name, f) :: rest => inField (site ++ [.field name]) f ++ inFields site rest

/-- A pointer of a field comes before its items. -/
def inField (site : Site) : Field → List Occurrence
  | ⟨kind, _, items, pointer, _⟩ =>
    match pointer with
    | some pointer =>
      if kind = .object ∨ kind.isUnspecified then [⟨site, pointer⟩]
      else if kind = .array then inItems (site ++ [.items]) items
      else []
    | none => if kind = .object ∨ kind = .array then inItems (site ++ [.items]) items else []

def inItems (site : Site) : Option Items → List Occurrence
  | none => []
  | some (.reference pointer) => [⟨site, pointer⟩]
  | some (.inline model) => inModel site model
end

end Occurrence
end RecordShape
