import RecordShape.Proofs.Compile.DepthBound
import RecordShape.Proofs.Graph.Chains
import RecordShape.Proofs.Graph.Followed
import RecordShape.Proofs.Schema.Keys

/-!
# The graph and the compiler

With a bound above the number of models, compiling follows every chain of references to its end.
Then it notes a cycle for the models that lead into a cycle group and for no others, and it misses
the targets that the graph lists as dangling for the models that compiling comes to.
-/

namespace RecordShape

namespace ReferenceGraph
variable {s : Schema}

theorem mem_dangling_iff {e : DanglingReference} :
    e ∈ (ofSchema s).dangling ↔ ∃ name m o, (name, m) ∈ s.models ∧
      o ∈ Occurrence.inModel [] m ∧ s.model? o.target = none ∧
      e = { fromModel := name, site := o.site.text, target := o.target,
            suggestions := Similarity.suggestions o.target (ofSchema s).names } := by
  rw [dangling_ofSchema, List.mem_flatMap]
  simp only [List.mem_map, List.mem_filter, Option.isNone_iff_eq_none, Prod.exists]
  constructor
  · rintro ⟨name, m, hm, o, ⟨ho, hnone⟩, rfl⟩
    exact ⟨name, m, o, hm, ho, hnone, rfl⟩
  · rintro ⟨name, m, o, hm, ho, hnone, rfl⟩
    exact ⟨name, m, hm, o, ⟨ho, hnone⟩, rfl⟩

theorem mem_fixtureModels_iff {root : String} : root ∈ (ofSchema s).fixtureModels ↔
    ∃ m, (root, m) ∈ s.models ∧ m.isFixture = true := by
  simp only [ofSchema, Schema.fixtureNames, List.mem_map, List.mem_filter, Prod.exists,
    exists_and_right, exists_eq_right]

end ReferenceGraph

namespace Compile
open ReferenceGraph Relation

variable {s : Schema} {options : CompileOptions} {name : String} {m : Model}

theorem leads_back_of_cyclicReference (hm : s.model? name = some m) {d : Diagnostic}
    (hd : d ∈ ((Compiler.ofSchema options s).model m).diagnostics)
    (hcode : d.code = .cyclicReference) : TransGen (ofSchema s).Refers name d.subject ∧
      TransGen (ofSchema s).Refers d.subject d.subject := by
  obtain ⟨c, hc, hcut⟩ := exists_cut_of_mem hd (by rw [Diagnostic.isReference, hcode])
  cases hcut with
  | cycle _ hback => exact Chain.leads_back hm hc hback
  | depth => cases hcode
  | dangling => cases hcode

theorem exists_cyclicReference_of_leads (hdepth : s.models.length ≤ options.maxDepth)
    (hm : s.model? name = some m) {member : String}
    (hreach : ReflTransGen (ofSchema s).Refers name member)
    (hcycle : TransGen (ofSchema s).Refers member member) :
    ∃ d ∈ ((Compiler.ofSchema options s).model m).diagnostics, d.code = .cyclicReference := by
  obtain ⟨c, hc, hback⟩ := Chain.exists_returning hm hreach hcycle
  have hlen := hc.isPath.length_le
  exact ⟨_, mem_diagnostics_of_cut hc (.cycle (by omega) hback), rfl⟩

/-- What is missing below a model is named by a reference of a model it reaches, or of itself. -/
theorem exists_danglingReference_iff (hdepth : s.models.length + 1 ≤ options.maxDepth)
    (hm : s.model? name = some m) (target : String) :
    (∃ d ∈ ((Compiler.ofSchema options s).model m).diagnostics,
      d.code = .danglingReference ∧ d.subject = target) ↔
    ∃ source m', ReflTransGen (ofSchema s).Refers name source ∧ s.model? source = some m' ∧
      s.model? target = none ∧ ∃ o ∈ Occurrence.inModel [] m', o.target = target := by
  constructor
  · rintro ⟨d, hd, hcode, rfl⟩
    obtain ⟨c, hc, hcut⟩ := exists_cut_of_mem hd (by rw [Diagnostic.isReference, hcode])
    cases hcut with
    | cycle => cases hcode
    | depth => cases hcode
    | dangling _ hnone =>
      obtain ⟨source, m', hreach, hm', hlast⟩ := Chain.exists_source hm hc.runs
      exact ⟨source, m', hreach, hm', hnone, c.last.1, Model.mem_of_mem_links hlast, rfl⟩
  · rintro ⟨source, m', hreach, hm', hnone, o, ho, rfl⟩
    obtain ⟨position, hlink⟩ := Model.mem_links ho
    obtain ⟨followed, hnodup, hruns⟩ := Chain.exists_chain_to hreach hm hm'
    have hc : Chain.IsFrom s m ⟨followed, (o, position)⟩ := ⟨hruns _ hlink, hnodup⟩
    have hlen := hc.isPath.length_le
    exact ⟨_, mem_diagnostics_of_cut hc (.dangling (by omega) hnone), rfl, rfl⟩

/-- A cycle is noted for the models that lead into a cycle group. -/
theorem exists_cyclicReference_iff (hdepth : s.models.length ≤ options.maxDepth)
    (hm : s.model? name = some m) :
    (∃ d ∈ ((Compiler.ofSchema options s).model m).diagnostics, d.code = .cyclicReference) ↔
      ∃ group ∈ (ofSchema s).cycles, ∃ member ∈ group.members,
        ReflTransGen (ofSchema s).Refers name member := by
  constructor
  · rintro ⟨d, hd, hcode⟩
    obtain ⟨hreach, hcycle⟩ := leads_back_of_cyclicReference hm hd hcode
    obtain ⟨group, hgroup, hmember⟩ := exists_group_iff.mpr hcycle
    exact ⟨group, hgroup, d.subject, hmember, hreach.to_reflTransGen⟩
  · rintro ⟨group, hgroup, member, hmember, hreach⟩
    exact exists_cyclicReference_of_leads hdepth hm hreach
      (exists_group_iff.mp ⟨group, hgroup, hmember⟩)

theorem exists_danglingReference_rows_iff (hkeys : s.models.Ordered)
    (hdepth : s.models.length + 1 ≤ options.maxDepth) (target : String) :
    (∃ d ∈ (rows options s).diagnostics, d.code = .danglingReference ∧ d.subject = target) ↔
      ∃ e ∈ (ofSchema s).dangling, e.target = target ∧
        ∃ root ∈ (ofSchema s).fixtureModels,
          ReflTransGen (ofSchema s).Refers root e.fromModel := by
  have hmodel (name : String) (m : Model) : s.model? name = some m ↔ (name, m) ∈ s.models :=
    KeyMap.find?_eq_some_iff hkeys
  constructor
  · rintro ⟨d, hd, hcode, hsubject⟩
    obtain ⟨root, m, hroot, hfixture, hd⟩ := Schema.mem_diagnostics_rows.mp hd
    rw [mem_modelAt_iff (by rw [Diagnostic.isReference, hcode])] at hd
    obtain ⟨source, m', hreach, hm', hnone, o, ho, rfl⟩ :=
      (exists_danglingReference_iff hdepth ((hmodel root m).mpr hroot) target).mp
        ⟨d, hd, hcode, hsubject⟩
    have hlisted := mem_dangling_iff.mpr ⟨source, m', o, (hmodel source m').mp hm', ho, hnone, rfl⟩
    exact ⟨_, hlisted, rfl, root, mem_fixtureModels_iff.mpr ⟨m, hroot, hfixture⟩, hreach⟩
  · rintro ⟨e, he, rfl, root, hroot, hreach⟩
    obtain ⟨source, m', o, hm', ho, hnone, rfl⟩ := mem_dangling_iff.mp he
    obtain ⟨m, hroot, hfixture⟩ := mem_fixtureModels_iff.mp hroot
    obtain ⟨d, hd, hcode, hsubject⟩ :=
      (exists_danglingReference_iff hdepth ((hmodel root m).mpr hroot) o.target).mpr
        ⟨source, m', hreach, (hmodel source m').mpr hm', hnone, o, ho, rfl⟩
    rw [← mem_modelAt_iff (by rw [Diagnostic.isReference, hcode]) [root]] at hd
    exact ⟨d, Schema.mem_diagnostics_rows.mpr ⟨root, m, hroot, hfixture, hd⟩, hcode, hsubject⟩

/-- With a bound above the number of models, the diagnostics tell of the cycle groups and of the
dangling references of the graph, and never of the bound. -/
theorem diagnostics_agree_with_graph (options : CompileOptions) (s : Schema)
    (hkeys : s.models.Ordered) (hdepth : s.models.length + 1 ≤ options.maxDepth) :
    (∀ name m, s.model? name = some m →
      ((∃ d ∈ ((Compiler.ofSchema options s).model m).diagnostics, d.code = .cyclicReference) ↔
        ∃ group ∈ (ofSchema s).cycles, ∃ member ∈ group.members,
          ReflTransGen (ofSchema s).Refers name member) ∧
      ∀ d ∈ ((Compiler.ofSchema options s).model m).diagnostics, d.code = .cyclicReference →
        ∃ group ∈ (ofSchema s).cycles, d.subject ∈ group.members) ∧
    (∀ target, (∃ d ∈ (s.documents options).diagnostics,
        d.code = .danglingReference ∧ d.subject = target) ↔
      ∃ e ∈ (ofSchema s).dangling, e.target = target ∧
        ∃ root ∈ (ofSchema s).fixtureModels, ReflTransGen (ofSchema s).Refers root e.fromModel) ∧
    (∀ m, ∀ d ∈ ((Compiler.ofSchema options s).model m).diagnostics, d.code ≠ .depthExceeded) ∧
    ∀ d ∈ (s.documents options).diagnostics, d.code ≠ .depthExceeded := by
  rw [Schema.diagnostics_documents]
  refine ⟨fun name m hm => ⟨?_, fun d hd hcode => ?_⟩, ?_, depth_not_exceeded hdepth [], ?_⟩
  · exact exists_cyclicReference_iff (by omega) hm
  · exact exists_group_iff.mpr (leads_back_of_cyclicReference hm hd hcode).2
  · exact exists_danglingReference_rows_iff hkeys hdepth
  · exact depth_not_exceeded_rows hdepth

/-- Authors have a book, and books have an author and a series, of which the schema says
nothing. -/
def authorModel : Model where
  kind := .object
  properties := [("book", .toModel "Book")]

def librarySchema : Schema where
  models :=
    [("Author", authorModel),
      ("Book", { kind := .object,
                 properties := [("author", .toModel "Author"), ("series", .toModel "Series")] })]

theorem diagnostics_agree_with_graph_library : librarySchema.models.Ordered ∧
    librarySchema.models.length + 1 ≤ defaultMaxDepth ∧
    (∃ group ∈ (ofSchema librarySchema).cycles, ∃ member ∈ group.members,
      ReflTransGen (ofSchema librarySchema).Refers "Author" member) ∧
    (∃ e ∈ (ofSchema librarySchema).dangling, e.target = "Series" ∧
      ∃ root ∈ (ofSchema librarySchema).fixtureModels,
        ReflTransGen (ofSchema librarySchema).Refers root e.fromModel) := by
  have hkeys : librarySchema.models.Ordered := by
    unfold KeyMap.Ordered
    decide +kernel
  have hdepth : librarySchema.models.length + 1 ≤ defaultMaxDepth := by decide
  obtain ⟨hcycles, hdangling, -⟩ := diagnostics_agree_with_graph {} librarySchema hkeys hdepth
  refine ⟨hkeys, hdepth, (hcycles "Author" authorModel rfl).1.mp ?_, (hdangling "Series").mp ?_⟩
  · decide +kernel
  · decide +kernel

end Compile
end RecordShape
