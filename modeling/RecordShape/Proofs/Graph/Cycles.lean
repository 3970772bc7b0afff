import RecordShape.Proofs.Graph.Followed

/-!
# Cycle groups

Two models stand in one cycle group exactly if each reaches the other. So no model stands in two
groups, and a group is known by its first member, at which it is listed.
-/

namespace RecordShape
open Relation

/-- A reference of the first model that is followed names the last one, which is a model too. -/
def Schema.Refers (s : Schema) (first last : String) : Prop :=
  ∃ m next, s.model? first = some m ∧ s.model? last = some next ∧ last ∈ m.targets

namespace ReferenceGraph

section
variable {g : ReferenceGraph} {first last name other : String} {group : CycleGroup}

theorem groupOf_selected (name : String) : g.Selected (g.groupOf name) :=
  (reachable_selected name).filter _

/-- A group is listed at its first member. -/
theorem mem_cycles_iff :
    group ∈ g.cycles ↔ ∃ name ∈ g.names, (g.groupOf name).head? = some name ∧
      group = ⟨g.groupOf name, (g.groupOf name).length = 1⟩ := by
  simp only [cycles, List.mem_filterMap, Option.ite_none_right_eq_some, Option.some.injEq]
  exact exists_congr fun name => and_congr_right fun _ => and_congr_right fun _ => eq_comm

theorem members_ne_nil (h : group ∈ g.cycles) : group.members ≠ [] := by
  obtain ⟨name, -, hhead, rfl⟩ := mem_cycles_iff.mp h
  intro hnil
  rw [show g.groupOf name = [] from hnil] at hhead
  cases hhead

theorem isSelfReferential_iff (h : group ∈ g.cycles) :
    group.isSelfReferential = true ↔ group.members.length = 1 := by
  obtain ⟨name, -, -, rfl⟩ := mem_cycles_iff.mp h
  exact decide_eq_true_iff

theorem members_sublist (h : group ∈ g.cycles) : group.members.Sublist g.names := by
  obtain ⟨name, -, -, rfl⟩ := mem_cycles_iff.mp h
  exact (groupOf_selected name).sublist

theorem members_eq_groupOf (h : group ∈ g.cycles) (hfirst : first ∈ group.members) :
    group.members = g.groupOf first := by
  obtain ⟨name, -, -, rfl⟩ := mem_cycles_iff.mp h
  exact (groupOf_eq_of_mem hfirst).symm

theorem together_iff :
    (∃ group ∈ g.cycles, first ∈ group.members ∧ last ∈ group.members) ↔
      TransGen g.Refers first last ∧ TransGen g.Refers last first := by
  rw [← mem_groupOf_iff]
  constructor
  · rintro ⟨group, hgroup, hfirst, hlast⟩
    rwa [members_eq_groupOf hgroup hfirst] at hlast
  · intro hlast
    obtain ⟨hto, hback⟩ := mem_groupOf_iff.mp hlast
    obtain ⟨group, hgroup, hfirst⟩ := exists_group_iff.mpr (hto.trans hback)
    exact ⟨group, hgroup, hfirst, members_eq_groupOf hgroup hfirst ▸ hlast⟩

theorem refers_self_of_single (h : group ∈ g.cycles) (hsingle : group.members = [name]) :
    g.Refers name name := by
  have hname : name ∈ group.members := hsingle ▸ List.mem_singleton_self name
  have hcycle := exists_group_iff.mp ⟨group, h, hname⟩
  obtain ⟨next, hrefers, hback⟩ := TransGen.head'_iff.mp hcycle
  have hnext : next ∈ group.members := by
    rw [members_eq_groupOf h hname, mem_groupOf_iff]
    exact ⟨.single hrefers, .trans_right hback hcycle⟩
  rw [hsingle, List.mem_singleton] at hnext
  rwa [hnext] at hrefers

theorem disjoint_groupOf (hname : (g.groupOf name).head? = some name)
    (hother : (g.groupOf other).head? = some other) (hne : name ≠ other) :
    (g.groupOf name).Disjoint (g.groupOf other) := by
  intro common hcommon hcommon'
  have hsame : g.groupOf name = g.groupOf other := by
    rw [← groupOf_eq_of_mem hcommon, groupOf_eq_of_mem hcommon']
  rw [hsame, hother] at hname
  exact hne (Option.some.inj hname).symm

theorem pairwise_cycles {R : CycleGroup → CycleGroup → Prop} (hnames : g.names.Pairwise (· < ·))
    (h : ∀ name other, name < other → (g.groupOf name).head? = some name →
      (g.groupOf other).head? = some other →
      R ⟨g.groupOf name, (g.groupOf name).length = 1⟩
        ⟨g.groupOf other, (g.groupOf other).length = 1⟩) : g.cycles.Pairwise R := by
  refine List.pairwise_filterMap.mpr (hnames.imp fun {name other} hlt => ?_)
  intro group hgroup group' hgroup'
  rw [Option.ite_none_right_eq_some, Option.some.injEq] at hgroup hgroup'
  obtain ⟨hhead, rfl⟩ := hgroup
  obtain ⟨hhead', rfl⟩ := hgroup'
  exact h name other hlt hhead hhead'

theorem cycles_disjoint (hnames : g.names.Pairwise (· < ·)) :
    g.cycles.Pairwise fun group group' => group.members.Disjoint group'.members :=
  pairwise_cycles hnames fun _ _ hlt hhead hhead' => disjoint_groupOf hhead hhead' hlt.ne

theorem cycles_ordered (hnames : g.names.Pairwise (· < ·)) :
    g.cycles.Pairwise fun group group' => group.members < group'.members := by
  refine pairwise_cycles hnames fun name other hlt hhead hhead' => ?_
  obtain ⟨rest, hrest⟩ := List.head?_eq_some_iff.mp hhead
  obtain ⟨rest', hrest'⟩ := List.head?_eq_some_iff.mp hhead'
  dsimp only
  rw [hrest, hrest']
  exact List.Lex.rel hlt

end

variable {s : Schema}

theorem refers_eq (s : Schema) : (ofSchema s).Refers = s.Refers := by
  funext first last
  rw [eq_iff_iff, refers_ofSchema]
  simp only [Schema.Refers, Model.targets, List.mem_map]

/-- The cycle groups are the classes of models that reach each other. They are disjoint and none is
empty; the members of each are in order, and so are the groups. A model that stands alone in its
group refers to itself. -/
theorem cycles_are_classes (s : Schema) (hkeys : s.models.Ordered) :
    (∀ first last, (∃ group ∈ (ofSchema s).cycles, first ∈ group.members ∧ last ∈ group.members) ↔
      TransGen s.Refers first last ∧ TransGen s.Refers last first) ∧
    ((ofSchema s).cycles.Pairwise fun group group' => group.members.Disjoint group'.members) ∧
    ((ofSchema s).cycles.Pairwise fun group group' => group.members < group'.members) ∧
    (∀ group ∈ (ofSchema s).cycles, group.members ≠ [] ∧ group.members.Pairwise (· < ·) ∧
      (group.isSelfReferential = true ↔ group.members.length = 1) ∧
      ∀ name, group.members = [name] → s.Refers name name) ∧
    ∀ name, (ofSchema s).isCyclic name = true ↔ TransGen s.Refers name name := by
  have hnames := names_ordered hkeys
  rw [← refers_eq]
  refine ⟨fun first last => together_iff, cycles_disjoint hnames, cycles_ordered hnames,
    fun group hgroup => ⟨members_ne_nil hgroup, hnames.sublist (members_sublist hgroup),
      isSelfReferential_iff hgroup, fun name => refers_self_of_single hgroup⟩,
    fun name => isCyclic_iff⟩

/-- Authors and books refer to each other, categories to themselves, and shops to books. -/
def shopSchema : Schema where
  models :=
    [("Author",
      { kind := .object
        properties := [("books", { kind := .array, items := some (.reference "Book") })] }),
      ("Book", { kind := .object, properties := [("author", .toModel "Author")] }),
      ("Category", { kind := .object, properties := [("parent", .toModel "Category")] }),
      ("Shop", { kind := .object, properties := [("featured", .toModel "Book")] })]

/-- A shop leads into a cycle and is not part of it. -/
theorem cycles_are_classes_shop : shopSchema.models.Ordered ∧
    (ofSchema shopSchema).cycles = [⟨["Author", "Book"], false⟩, ⟨["Category"], true⟩] ∧
    TransGen shopSchema.Refers "Author" "Book" ∧ TransGen shopSchema.Refers "Book" "Author" ∧
    TransGen shopSchema.Refers "Category" "Category" ∧
    ¬TransGen shopSchema.Refers "Shop" "Shop" ∧
    ["Author", "Book"].Disjoint ["Category"] := by
  have hkeys : shopSchema.models.Ordered := by
    unfold KeyMap.Ordered
    decide +kernel
  have hcycles : (ofSchema shopSchema).cycles =
      [⟨["Author", "Book"], false⟩, ⟨["Category"], true⟩] := by decide +kernel
  obtain ⟨htogether, hdisjoint, -, -, hcyclic⟩ := cycles_are_classes shopSchema hkeys
  obtain ⟨hto, hback⟩ := (htogether "Author" "Book").mp (by rw [hcycles]; decide)
  have hself := (hcyclic "Category").mp (by decide +kernel)
  have hshop := (hcyclic "Shop").not.mp (by decide +kernel)
  rw [hcycles] at hdisjoint
  exact ⟨hkeys, hcycles, hto, hback, hself, hshop,
    (List.pairwise_cons.mp hdisjoint).1 _ (List.mem_singleton_self _)⟩

end ReferenceGraph
end RecordShape
