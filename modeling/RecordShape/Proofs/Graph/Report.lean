import RecordShape.Proofs.Graph.Reachability

/-!
# What a report looks at

A reference counts by its site and by the model it names. How its pointer is written does not show
in a report.
-/

namespace RecordShape

/-- The site of a reference and the model it names. -/
def Occurrence.mark (o : Occurrence) : Site × String := (o.site, o.target)

namespace ReferenceGraph
variable {g g' : ReferenceGraph}

/-- The models in order, each with what its references tell. -/
def marks (g : ReferenceGraph) : List (String × List (Site × String)) :=
  g.nodes.map fun node => (node.1, node.2.map Occurrence.mark)

theorem names_eq_marks (g : ReferenceGraph) : g.names = g.marks.map Prod.fst := by
  simp only [names, marks, List.map_map, Function.comp_def]

theorem targets_eq_marks (g : ReferenceGraph) (name : String) :
    (g.occurrencesOf name).map Occurrence.target =
      ((KeyMap.find? name g.marks).getD []).map Prod.snd := by
  rw [marks, KeyMap.find?_map, occurrencesOf]
  cases KeyMap.find? name g.nodes with
  | none => rfl
  | some occurrences =>
    simp only [Option.getD_some, Option.map_some, List.map_map]
    rfl

theorem referencesFrom_congr (h : g.marks = g'.marks) : g.referencesFrom = g'.referencesFrom := by
  funext name
  simp only [referencesFrom, targets_eq_marks, names_eq_marks, h]

theorem referenceCount_eq_marks (g : ReferenceGraph) :
    g.referenceCount =
      (g.marks.flatMap fun node => node.2.filter fun m => g.names.contains m.2).length := by
  simp only [referenceCount, marks, List.length_flatMap, List.map_map, Function.comp_def,
    List.filter_map, List.length_map]
  rfl

theorem dangling_eq_marks (g : ReferenceGraph) :
    g.dangling = g.marks.flatMap fun node =>
      (node.2.filter fun m => !g.names.contains m.2).map fun m =>
        { fromModel := node.1
          site := m.1.text
          target := m.2
          suggestions := Similarity.suggestions m.2 g.names } := by
  simp only [dangling, marks, List.flatMap_map, List.filter_map, List.map_map]
  rfl

theorem spread_congr (h : g.marks = g'.marks) (fuel : Nat) (reached : List String) :
    g.spread fuel reached = g'.spread fuel reached := by
  have hnames : g.names = g'.names := by rw [names_eq_marks, names_eq_marks, h]
  induction fuel generalizing reached with
  | zero => rfl
  | succ fuel ih => simp only [spread, hnames, referencesFrom_congr h, ih]

theorem cycles_congr (h : g.marks = g'.marks) : g.cycles = g'.cycles := by
  have hnames : g.names = g'.names := by rw [names_eq_marks, names_eq_marks, h]
  have hlength : g.nodes.length = g'.nodes.length := by simpa [marks] using congrArg List.length h
  have hreachable : g.reachable = g'.reachable := by
    funext name
    rw [reachable, reachable, referencesFrom_congr h, hlength, spread_congr h]
  have hgroup : g.groupOf = g'.groupOf := by
    funext name
    simp only [groupOf, reaches, hreachable]
  unfold cycles
  rw [hnames, hgroup]

/-- Graphs whose references name the same models at the same sites have the same report. -/
theorem report_congr (h : g.marks = g'.marks) (hfixture : g.fixtureModels = g'.fixtureModels) :
    g.report = g'.report := by
  have hnames : g.names = g'.names := by rw [names_eq_marks, names_eq_marks, h]
  have hlength : g.nodes.length = g'.nodes.length := by simpa [marks] using congrArg List.length h
  simp only [report, hlength, hfixture, cycles_congr h, referenceCount_eq_marks, dangling_eq_marks,
    hnames, h]

end ReferenceGraph
end RecordShape
