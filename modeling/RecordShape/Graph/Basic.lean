import RecordShape.Graph.Occurrence
import RecordShape.Graph.Similarity
import RecordShape.Reading.Formed

/-!
# The reference graph

The models of a schema are the nodes, and every reference that compiling would follow is an edge.
Models that reach each other form a cycle group; references to missing models are dangling.
-/

namespace RecordShape

/-- Models that reach each other, in order. -/
structure CycleGroup where
  members : List String
  isSelfReferential : Bool
  deriving DecidableEq, Inhabited

namespace CycleGroup

def toJson (g : CycleGroup) : Json :=
  .obj [("is_self_referential", .bool g.isSelfReferential), ("members", .strings g.members)]

instance : Formed CycleGroup where
  form := .record "CycleGroup" [("members", .list .text), ("is_self_referential", .flag)]
    ["members", "is_self_referential"]
  build j :=
    { members := Formed.buildList "members" j
      isSelfReferential := j.flagAt "is_self_referential" }

end CycleGroup

/-- A reference to a model that does not exist. -/
structure DanglingReference where
  fromModel : String
  site : String
  target : String
  suggestions : List String := []
  deriving DecidableEq, Inhabited

namespace DanglingReference

def toJson (d : DanglingReference) : Json :=
  .obj ([("from_model", .str d.fromModel), ("site", .str d.site)] ++
    (if d.suggestions.isEmpty then [] else [("suggestions", .strings d.suggestions)]) ++
    [("target", .str d.target)])

instance : Formed DanglingReference where
  form := .record "DanglingReference"
    [("from_model", .text), ("site", .text), ("target", .text), ("suggestions", .list .text)]
    ["from_model", "site", "target"]
  build j :=
    { fromModel := j.textAt "from_model"
      site := j.textAt "site"
      target := j.textAt "target"
      suggestions := Formed.buildList "suggestions" j }

end DanglingReference

structure GraphReport where
  models : Nat
  references : Nat
  fixtureModels : List String
  cycles : List CycleGroup
  dangling : List DanglingReference
  deriving DecidableEq, Inhabited

namespace GraphReport

def toJson (r : GraphReport) : Json :=
  .obj [("cycles", .arr (r.cycles.map CycleGroup.toJson)),
    ("dangling", .arr (r.dangling.map DanglingReference.toJson)),
    ("fixture_models", .strings r.fixtureModels), ("models", .ofNat r.models),
    ("references", .ofNat r.references)]

instance : Formed GraphReport where
  form := .record "GraphReport"
    [("models", .size), ("references", .size), ("fixture_models", .list .text),
      ("cycles", .list (Formed.form CycleGroup)),
      ("dangling", .list (Formed.form DanglingReference))]
    ["models", "references", "fixture_models", "cycles", "dangling"]
  build j :=
    { models := Formed.buildAt 0 "models" j
      references := Formed.buildAt 0 "references" j
      fixtureModels := Formed.buildList "fixture_models" j
      cycles := Formed.buildList "cycles" j
      dangling := Formed.buildList "dangling" j }

end GraphReport

/-- The models of a schema in order, each with its references. -/
structure ReferenceGraph where
  nodes : List (String × List Occurrence)
  fixtureModels : List String

namespace ReferenceGraph

def ofSchema (s : Schema) : ReferenceGraph where
  nodes := s.models.map fun m => (m.1, Occurrence.inModel [] m.2)
  fixtureModels := s.fixtureNames

def names (g : ReferenceGraph) : List String := g.nodes.map Prod.fst

def occurrencesOf (g : ReferenceGraph) (name : String) : List Occurrence :=
  (KeyMap.find? name g.nodes).getD []

/-- The models a model refers to, in order and without repetition. -/
def referencesFrom (g : ReferenceGraph) (name : String) : List String :=
  let targets := (g.occurrencesOf name).map Occurrence.target
  g.names.filter targets.contains

def referenceCount (g : ReferenceGraph) : Nat :=
  (g.nodes.flatMap fun node => node.2.filter fun o => g.names.contains o.target).length

/-- Adds what is not yet in `reached` and is referred to by it; `fuel` bounds the rounds. -/
def spread (g : ReferenceGraph) : Nat → List String → List String
  | 0, reached => reached
  | fuel + 1, reached =>
    let next := g.names.filter fun name =>
      reached.contains name || reached.any fun r => (g.referencesFrom r).contains name
    if next.length = reached.length then reached else spread g fuel next

/-- The models reached from a model by one reference or more, in order. -/
def reachable (g : ReferenceGraph) (name : String) : List String :=
  g.spread g.nodes.length (g.referencesFrom name)

def reaches (g : ReferenceGraph) (first last : String) : Bool := (g.reachable first).contains last

/-- The models that a model reaches and is reached from. -/
def groupOf (g : ReferenceGraph) (name : String) : List String :=
  (g.reachable name).filter fun other => g.reaches other name

/-- The cycle groups, each listed at its first member. -/
def cycles (g : ReferenceGraph) : List CycleGroup :=
  g.names.filterMap fun name =>
    let members := g.groupOf name
    if members.head? = some name then some ⟨members, members.length = 1⟩ else none

def isCyclic (g : ReferenceGraph) (name : String) : Bool :=
  g.cycles.any fun group => group.members.contains name

/-- The references to missing models, in the order of their models and sites. -/
def dangling (g : ReferenceGraph) : List DanglingReference :=
  g.nodes.flatMap fun (name, occurrences) =>
    (occurrences.filter fun o => !g.names.contains o.target).map fun o =>
      { fromModel := name
        site := o.site.text
        target := o.target
        suggestions := Similarity.suggestions o.target g.names }

def report (g : ReferenceGraph) : GraphReport where
  models := g.nodes.length
  references := g.referenceCount
  fixtureModels := g.fixtureModels
  cycles := g.cycles
  dangling := g.dangling

end ReferenceGraph
end RecordShape
