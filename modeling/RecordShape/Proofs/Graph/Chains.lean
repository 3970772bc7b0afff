import RecordShape.Proofs.Compile.Chains
import RecordShape.Proofs.Graph.Reachability

/-!
# Chains and the reference graph

A chain of references leads from model to model along the graph. Whatever the graph reaches is the
end of a chain through different models, and a model that leads into a cycle starts a chain that
comes back to one of its models.
-/

namespace RecordShape

namespace ReferenceGraph
variable {s : Schema} {first last : String}

theorem refers_iff_link :
    (ofSchema s).Refers first last ↔ ∃ m next, s.model? first = some m ∧
      s.model? last = some next ∧ ∃ l ∈ m.links, l.1.target = last := by
  rw [refers_ofSchema]
  constructor
  · rintro ⟨m, next, hm, hnext, o, ho, htarget⟩
    obtain ⟨position, hlink⟩ := Model.mem_links ho
    exact ⟨m, next, hm, hnext, (o, position), hlink, htarget⟩
  · rintro ⟨m, next, hm, hnext, l, hl, htarget⟩
    exact ⟨m, next, hm, hnext, l.1, Model.mem_of_mem_links hl, htarget⟩

end ReferenceGraph

namespace Chain
open ReferenceGraph Relation

variable {s : Schema} {m next : Model} {name : String} {followed : List Link} {l last : Link}

theorem exists_source (hm : s.model? name = some m) (h : Runs s m followed last) :
    ∃ source m', ReflTransGen (ofSchema s).Refers name source ∧ s.model? source = some m' ∧
      last ∈ m'.links := by
  induction followed generalizing name m with
  | nil => exact ⟨name, m, .refl, hm, h⟩
  | cons first rest ih =>
    obtain ⟨hfirst, second, hsecond, hrest⟩ := h
    obtain ⟨source, m', hwalk, hm', hlast⟩ := ih hsecond hrest
    have hrefers := refers_iff_link.mpr ⟨m, second, hm, hsecond, first, hfirst, rfl⟩
    exact ⟨source, m', .head hrefers hwalk, hm', hlast⟩

theorem reaches_target (hm : s.model? name = some m) (h : Runs s m followed last)
    (hnext : s.model? last.1.target = some next) :
    TransGen (ofSchema s).Refers name last.1.target := by
  obtain ⟨source, m', hwalk, hm', hlast⟩ := exists_source hm h
  exact .tail' hwalk (refers_iff_link.mpr ⟨m', next, hm', hnext, last, hlast, rfl⟩)

theorem leads_back {c : Chain} (hm : s.model? name = some m) (hc : c.IsFrom s m)
    (hback : c.target ∈ c.trail) : TransGen (ofSchema s).Refers name c.target ∧
      TransGen (ofSchema s).Refers c.target c.target := by
  obtain ⟨next, hnext⟩ := hc.isPath.known _ hback
  refine ⟨reaches_target hm hc.runs hnext, ?_⟩
  obtain ⟨l, hl, htarget⟩ := List.mem_map.mp hback
  obtain ⟨front, back, hsplit⟩ := List.append_of_mem hl
  have hruns := hc.runs
  rw [hsplit] at hruns
  obtain ⟨first, hfirst, hrest⟩ := runs_on hruns
  rw [htarget] at hfirst
  exact reaches_target hfirst hrest hnext

/-- Whatever a model reaches is the end of a chain through different models. -/
theorem exists_chain_to {source : String} {m' : Model}
    (h : ReflTransGen (ofSchema s).Refers name source) (hm : s.model? name = some m)
    (hm' : s.model? source = some m') :
    ∃ followed, (followed.map fun l : Link => l.1.target).Nodup ∧
      ∀ last ∈ m'.links, Runs s m followed last := by
  induction h generalizing m' with
  | refl =>
    obtain rfl : m = m' := Option.some.inj (hm.symm.trans hm')
    exact ⟨[], List.nodup_nil, fun _ hlast => hlast⟩
  | @tail middle source _ hrefers ih =>
    obtain ⟨mid, next, hmid, hnext, l, hl, rfl⟩ := refers_iff_link.mp hrefers
    obtain rfl : next = m' := Option.some.inj (hnext.symm.trans hm')
    obtain ⟨followed, hnodup, hruns⟩ := ih hmid
    by_cases hmem : l.1.target ∈ followed.map fun l => l.1.target
    · -- The chain has been at the model before and is cut short there.
      obtain ⟨l', hl', htarget⟩ := List.mem_map.mp hmem
      obtain ⟨front, back, rfl⟩ := List.append_of_mem hl'
      refine ⟨front ++ [l'], ?_, fun last hlast => ?_⟩
      · rw [List.append_cons, List.map_append] at hnodup
        exact (List.nodup_append.mp hnodup).1
      · exact runs_snoc (runs_to (hruns l hl)) (htarget ▸ hnext) hlast
    · refine ⟨followed ++ [l], ?_, fun last hlast => runs_snoc (hruns l hl) hnext hlast⟩
      rw [List.map_append, List.map_singleton, ← List.concat_eq_append]
      exact hnodup.concat hmem

/-- A model that leads into a cycle starts a chain that comes back to a model it goes through. -/
theorem exists_returning {member : String} (hm : s.model? name = some m)
    (hreach : ReflTransGen (ofSchema s).Refers name member)
    (hcycle : TransGen (ofSchema s).Refers member member) :
    ∃ c : Chain, c.IsFrom s m ∧ c.target ∈ c.trail := by
  suffices h : ∀ path, s.IsPath path → ∀ name m, s.model? name = some m →
      ReflTransGen (ofSchema s).Refers name member →
      ∃ c : Chain, Runs s m c.followed c.last ∧ (path ++ c.trail).Nodup ∧
        c.target ∈ path ++ c.trail by
    obtain ⟨c, hruns, hnodup, htarget⟩ := h [] .nil name m hm hreach
    exact ⟨c, ⟨hruns, hnodup⟩, htarget⟩
  intro path hpath
  induction path, hpath using Schema.IsPath.induction_on with
  | step path hpath ih =>
    intro name m hm hreach
    -- There is always a reference from which the cycle can still be reached.
    obtain ⟨second, hrefers, hrest⟩ := TransGen.head'_iff.mp (.trans_right hreach hcycle)
    obtain ⟨_, next, hm', hnext, l, hl, rfl⟩ := refers_iff_link.mp hrefers
    obtain rfl := Option.some.inj (hm.symm.trans hm')
    by_cases hmem : l.1.target ∈ path
    · exact ⟨⟨[], l⟩, hl, by simpa [trail] using hpath.nodup, by simpa [trail, target] using hmem⟩
    · obtain ⟨c, hruns, hnodup, htarget⟩ := ih _ next hmem hnext _ next hnext hrest
      refine ⟨c.after l, ⟨hl, next, hnext, hruns⟩, ?_, ?_⟩
      · rwa [append_trail_after]
      · rwa [append_trail_after]

end Chain
end RecordShape
