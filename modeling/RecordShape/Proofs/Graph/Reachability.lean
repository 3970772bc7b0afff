import Mathlib.Logic.Relation
import RecordShape.Graph.Basic

/-!
# Models that lead to models

What a model reaches is found by rounds that add one reference each. The rounds end with exactly
the models that one reference or more lead to, so the cycle groups hold the models that lead back
to themselves.
-/

namespace RecordShape

theorem KeyMap.find?_map {α β : Type} (f : α → β) (key : String) (m : KeyMap α) :
    find? key (m.map fun entry => (entry.1, f entry.2)) = (find? key m).map f := by
  induction m with
  | nil => rfl
  | cons entry rest ih =>
    obtain ⟨k, v⟩ := entry
    by_cases hk : k = key
    · simp [find?, hk]
    · simpa [find?, hk] using ih

namespace ReferenceGraph
variable {g : ReferenceGraph} {first middle last name : String} {reached : List String}

/-- A model refers to another one of the graph. -/
def Refers (g : ReferenceGraph) (first last : String) : Prop := last ∈ g.referencesFrom first

theorem refers_iff :
    g.Refers first last ↔ last ∈ g.names ∧ ∃ o ∈ g.occurrencesOf first, o.target = last := by
  simp only [Refers, referencesFrom, List.mem_filter, List.contains_iff_mem, List.mem_map]

/-- The list is a choice among the names of the graph, in their order. -/
def Selected (g : ReferenceGraph) (l : List String) : Prop := l = g.names.filter l.contains

namespace Selected

theorem filter_names (p : String → Bool) : g.Selected (g.names.filter p) := by
  refine List.filter_congr fun name hname => Bool.eq_iff_iff.mpr ?_
  rw [List.contains_iff_mem, List.mem_filter]
  exact ⟨fun hp => ⟨hname, hp⟩, And.right⟩

theorem filter {l : List String} (h : g.Selected l) (p : String → Bool) :
    g.Selected (l.filter p) := by
  rw [h, List.filter_filter]
  exact filter_names _

theorem sublist {l : List String} (h : g.Selected l) : l.Sublist g.names := by
  rw [h]
  exact List.filter_sublist

theorem ext {l l' : List String} (h : g.Selected l) (h' : g.Selected l')
    (hmem : ∀ name, name ∈ l ↔ name ∈ l') : l = l' := by
  rw [h, h']
  refine List.filter_congr fun name _ => Bool.eq_iff_iff.mpr ?_
  rw [List.contains_iff_mem, List.contains_iff_mem, hmem]

end Selected

/-- One round: what is reached, and what it refers to. -/
def round (g : ReferenceGraph) (reached : List String) : List String :=
  g.names.filter fun name =>
    reached.contains name || reached.any fun r => (g.referencesFrom r).contains name

theorem mem_round :
    name ∈ g.round reached ↔
      name ∈ g.names ∧ (name ∈ reached ∨ ∃ r ∈ reached, g.Refers r name) := by
  simp only [round, List.mem_filter, Bool.or_eq_true, List.contains_iff_mem, List.any_eq_true,
    Refers]

theorem spread_succ (fuel : Nat) (reached : List String) :
    g.spread (fuel + 1) reached =
      if (g.round reached).length = reached.length then reached
      else g.spread fuel (g.round reached) := rfl

theorem subset_round (h : g.Selected reached) : reached ⊆ g.round reached := fun _ hname =>
  mem_round.mpr ⟨h.sublist.subset hname, .inl hname⟩

theorem round_eq_self (h : g.Selected reached)
    (hlen : (g.round reached).length ≤ reached.length) : g.round reached = reached := by
  have hpart : (g.round reached).filter reached.contains = reached := by
    refine ((Selected.filter_names _).filter _).ext h fun name => ?_
    rw [List.mem_filter, List.contains_iff_mem]
    exact ⟨And.right, fun hname => ⟨subset_round h hname, hname⟩⟩
  have hsub : ((g.round reached).filter reached.contains).Sublist (g.round reached) :=
    List.filter_sublist
  rw [hpart] at hsub
  exact (hsub.eq_of_length_le hlen).symm

theorem spread_selected (fuel : Nat) (h : g.Selected reached) :
    g.Selected (g.spread fuel reached) := by
  induction fuel generalizing reached with
  | zero => exact h
  | succ fuel ih =>
    rw [spread_succ]
    split
    · exact h
    · exact ih (Selected.filter_names _)

theorem subset_spread (fuel : Nat) (h : g.Selected reached) : reached ⊆ g.spread fuel reached := by
  induction fuel generalizing reached with
  | zero => exact List.Subset.refl _
  | succ fuel ih =>
    rw [spread_succ]
    split
    · exact List.Subset.refl _
    · exact List.Subset.trans (subset_round h) (ih (Selected.filter_names _))

theorem exists_of_mem_spread {fuel : Nat} (h : name ∈ g.spread fuel reached) :
    ∃ r ∈ reached, Relation.ReflTransGen g.Refers r name := by
  induction fuel generalizing reached with
  | zero => exact ⟨name, h, .refl⟩
  | succ fuel ih =>
    rw [spread_succ] at h
    split at h
    · exact ⟨name, h, .refl⟩
    · obtain ⟨r, hr, hwalk⟩ := ih h
      obtain ⟨-, hold | ⟨r', hr', hrefers⟩⟩ := mem_round.mp hr
      · exact ⟨r, hold, hwalk⟩
      · exact ⟨r', hr', .head hrefers hwalk⟩

theorem spread_closed {fuel : Nat} (h : g.Selected reached)
    (hfuel : g.names.length ≤ reached.length + fuel) (hmem : middle ∈ g.spread fuel reached)
    (hrefers : g.Refers middle last) : last ∈ g.spread fuel reached := by
  have hlast : last ∈ g.names := (refers_iff.mp hrefers).1
  induction fuel generalizing reached with
  | zero =>
    have hall : reached = g.names := h.sublist.eq_of_length_le hfuel
    rw [spread, hall]
    exact hlast
  | succ fuel ih =>
    rw [spread_succ] at hmem ⊢
    split at hmem
    · rename_i hlen
      have hround := round_eq_self h (Nat.le_of_eq hlen)
      rw [if_pos hlen, ← hround]
      exact mem_round.mpr ⟨hlast, .inr ⟨middle, hmem, hrefers⟩⟩
    · rename_i hlen
      rw [if_neg hlen]
      have hmore : reached.length < (g.round reached).length := by
        refine Nat.lt_of_not_le fun hle => hlen ?_
        rw [round_eq_self h hle]
      exact ih (Selected.filter_names _) (by omega) hmem

theorem referencesFrom_selected (name : String) : g.Selected (g.referencesFrom name) :=
  Selected.filter_names _

theorem reachable_selected (name : String) : g.Selected (g.reachable name) :=
  spread_selected _ (referencesFrom_selected name)

/-- A model reaches what one reference or more lead to. -/
theorem mem_reachable_iff : last ∈ g.reachable first ↔ Relation.TransGen g.Refers first last := by
  have hfrom := referencesFrom_selected (g := g) first
  constructor
  · intro h
    obtain ⟨r, hr, hwalk⟩ := exists_of_mem_spread h
    exact .head' hr hwalk
  · intro h
    induction h with
    | single hrefers => exact subset_spread _ hfrom hrefers
    | tail _ hrefers ih =>
      refine spread_closed hfrom ?_ ih hrefers
      rw [names, List.length_map]
      exact Nat.le_add_left _ _

theorem reaches_iff : g.reaches first last = true ↔ Relation.TransGen g.Refers first last := by
  rw [reaches, List.contains_iff_mem, mem_reachable_iff]

theorem mem_groupOf_iff :
    last ∈ g.groupOf first ↔
      Relation.TransGen g.Refers first last ∧ Relation.TransGen g.Refers last first := by
  rw [groupOf, List.mem_filter, mem_reachable_iff, reaches_iff]

theorem groupOf_eq_of_mem (h : last ∈ g.groupOf first) : g.groupOf last = g.groupOf first := by
  obtain ⟨hto, hback⟩ := mem_groupOf_iff.mp h
  have hselected (name : String) : g.Selected (g.groupOf name) := (reachable_selected name).filter _
  refine (hselected last).ext (hselected first) fun name => ?_
  rw [mem_groupOf_iff, mem_groupOf_iff]
  constructor
  · intro hname
    exact ⟨hto.trans hname.1, hname.2.trans hback⟩
  · intro hname
    exact ⟨hback.trans hname.1, hname.2.trans hto⟩

theorem exists_group_iff :
    (∃ group ∈ g.cycles, name ∈ group.members) ↔ Relation.TransGen g.Refers name name := by
  constructor
  · intro h
    obtain ⟨group, hgroup, hname⟩ := h
    obtain ⟨first, -, hfirst⟩ := List.mem_filterMap.mp hgroup
    dsimp only at hfirst
    split at hfirst
    · cases hfirst
      obtain ⟨hto, hback⟩ := mem_groupOf_iff.mp hname
      exact hback.trans hto
    · cases hfirst
  · intro h
    have hname : name ∈ g.groupOf name := mem_groupOf_iff.mpr ⟨h, h⟩
    -- The group is listed at its first member.
    obtain ⟨first, hfirst⟩ := Option.isSome_iff_exists.mp
      (List.isSome_head?.mpr (List.ne_nil_of_mem hname))
    have hmem : first ∈ g.groupOf name := List.mem_of_mem_head? hfirst
    have hgroup := groupOf_eq_of_mem hmem
    refine ⟨⟨g.groupOf first, (g.groupOf first).length = 1⟩, ?_, hgroup ▸ hname⟩
    refine List.mem_filterMap.mpr ⟨first, ?_, ?_⟩
    · exact ((reachable_selected name).filter _).sublist.subset hmem
    · dsimp only
      rw [if_pos (by rw [hgroup, hfirst])]

theorem isCyclic_iff : g.isCyclic name = true ↔ Relation.TransGen g.Refers name name := by
  rw [← exists_group_iff]
  simp only [isCyclic, List.any_eq_true, List.contains_iff_mem]

section
variable {s : Schema}

theorem names_ofSchema (s : Schema) : (ofSchema s).names = s.models.map Prod.fst := by
  simp only [names, ofSchema, List.map_map, Function.comp_def]

theorem mem_names_ofSchema : name ∈ (ofSchema s).names ↔ ∃ m, s.model? name = some m := by
  rw [names_ofSchema, Schema.model?, ← Option.isSome_iff_exists]
  change _ ↔ s.models.contains name = true
  rw [KeyMap.contains_iff, List.mem_map]
  simp

theorem occurrencesOf_ofSchema (s : Schema) (name : String) :
    (ofSchema s).occurrencesOf name =
      ((s.model? name).map (Occurrence.inModel [])).getD [] := by
  rw [occurrencesOf, ofSchema, KeyMap.find?_map, Schema.model?]

/-- The references of the graph are those between the models of the schema. -/
theorem refers_ofSchema :
    (ofSchema s).Refers first last ↔ ∃ m next, s.model? first = some m ∧
      s.model? last = some next ∧ ∃ o ∈ Occurrence.inModel [] m, o.target = last := by
  rw [refers_iff, mem_names_ofSchema, occurrencesOf_ofSchema]
  constructor
  · rintro ⟨⟨next, hnext⟩, o, ho, htarget⟩
    cases hm : s.model? first with
    | none => simp [hm] at ho
    | some m =>
      rw [hm] at ho
      exact ⟨m, next, rfl, hnext, o, ho, htarget⟩
  · rintro ⟨m, next, hm, hnext, o, ho, htarget⟩
    rw [hm]
    exact ⟨⟨next, hnext⟩, o, ho, htarget⟩

end

end ReferenceGraph
end RecordShape
