import Mathlib.Data.List.Sigma
import RecordShape.Proofs.Compile.References
import RecordShape.Proofs.Compile.Resolution

/-!
# Chains of references

A chain of references leaves a model, goes through models that are pairwise different, and ends at
a reference that is not followed any more. Compiling a model records one diagnostic for every
chain that is cut off, and none besides. The chains are listed along the way that compiling takes,
so that two chains over the same models are still counted apart.
-/

namespace RecordShape

/-- A reference and its position among the references of its model. -/
abbrev Link := Occurrence × Nat

/-- The references of a model, in order. -/
def Model.links (m : Model) : List Link := (Occurrence.inModel [] m).zipIdx

theorem Model.links_nodup (m : Model) : m.links.Nodup :=
  List.Nodup.of_map Prod.snd (List.nodup_zipIdx_map_snd _)

theorem Model.mem_links {m : Model} {o : Occurrence} (h : o ∈ Occurrence.inModel [] m) :
    ∃ position, (o, position) ∈ m.links := by
  obtain ⟨position, hlt, hget⟩ := List.mem_iff_getElem.mp h
  exact ⟨position, List.mk_mem_zipIdx_iff_getElem?.mpr (List.getElem?_eq_some_iff.mpr ⟨hlt, hget⟩)⟩

theorem Model.mem_of_mem_links {m : Model} {l : Link} (h : l ∈ m.links) :
    l.1 ∈ Occurrence.inModel [] m := by
  have hfst : l.1 ∈ m.links.map Prod.fst := List.mem_map_of_mem h
  rwa [Model.links, List.zipIdx_map_fst] at hfst

/-- References one after another. All but the last are followed. -/
structure Chain where
  followed : List Link
  last : Link

namespace Chain

/-- The models that the chain goes through. -/
def trail (c : Chain) : List String := c.followed.map fun l => l.1.target

/-- The model that the last reference asks for. -/
def target (c : Chain) : String := c.last.1.target

def first (c : Chain) : Link := c.followed.headD c.last

/-- The chain with one more reference in front of it. -/
def after (l : Link) (c : Chain) : Chain := ⟨l :: c.followed, c.last⟩

theorem append_trail_after (path : List String) (l : Link) (c : Chain) :
    path ++ (c.after l).trail = path ++ [l.1.target] ++ c.trail := by
  simp [after, trail]

/-- The first reference occurs in the model, and every other one in the model that the reference
before it leads to. -/
def Runs (s : Schema) : Model → List Link → Link → Prop
  | m, [], last => last ∈ m.links
  | m, l :: rest, last =>
    l ∈ m.links ∧ ∃ next, s.model? l.1.target = some next ∧ Runs s next rest last

/-- A chain that leaves a model and comes through no model twice. -/
structure IsFrom (s : Schema) (m : Model) (c : Chain) : Prop where
  runs : Runs s m c.followed c.last
  nodup : c.trail.Nodup

theorem runs_to {s : Schema} {m : Model} {front back : List Link} {l last : Link}
    (h : Runs s m (front ++ l :: back) last) : Runs s m front l := by
  induction front generalizing m with
  | nil => exact h.1
  | cons first rest ih =>
    obtain ⟨hfirst, next, hnext, hrest⟩ := h
    exact ⟨hfirst, next, hnext, ih hrest⟩

theorem runs_snoc {s : Schema} {m next : Model} {followed : List Link} {l last : Link}
    (h : Runs s m followed l) (hnext : s.model? l.1.target = some next)
    (hlast : last ∈ next.links) : Runs s m (followed ++ [l]) last := by
  induction followed generalizing m with
  | nil => exact ⟨h, next, hnext, hlast⟩
  | cons first rest ih =>
    obtain ⟨hfirst, second, hsecond, hrest⟩ := h
    exact ⟨hfirst, second, hsecond, ih hrest⟩

theorem runs_on {s : Schema} {m : Model} {front back : List Link} {l last : Link}
    (h : Runs s m (front ++ l :: back) last) :
    ∃ next, s.model? l.1.target = some next ∧ Runs s next back last := by
  induction front generalizing m with
  | nil => exact h.2
  | cons first rest ih =>
    obtain ⟨-, second, -, hrest⟩ := h
    exact ih hrest

theorem IsFrom.isPath {s : Schema} {m : Model} {c : Chain} (h : c.IsFrom s m) :
    s.IsPath c.trail := by
  refine ⟨h.nodup, fun name hname => ?_⟩
  obtain ⟨l, hl, rfl⟩ := List.mem_map.mp hname
  obtain ⟨front, back, hsplit⟩ := List.append_of_mem hl
  have hruns := h.runs
  rw [hsplit] at hruns
  obtain ⟨next, hnext, -⟩ := runs_on hruns
  exact ⟨next, hnext⟩

end Chain

/-- What is recorded of a reference that is not followed at the end of a path: its target is on
the path, or the path is as long as paths may be, or there is no such model. -/
inductive CutOff (s : Schema) (maxDepth : Nat) (path : List String) (target : String) :
    Diagnostic → Prop where
  | cycle (hlen : path.length ≤ maxDepth) (h : target ∈ path) :
    CutOff s maxDepth path target
      { subject := target
        code := .cyclicReference
        message := "'" ++ target ++ "' is already being expanded; accepting any record"
        context := ["Cycle: " ++ pathText path ++ " -> " ++ target] }
  | depth (hlen : path.length = maxDepth) (h : target ∉ path) :
    CutOff s maxDepth path target
      { subject := target
        code := .depthExceeded
        message := "reference depth " ++ toString maxDepth ++ " reached before '" ++ target ++
          "'; accepting any record"
        context := ["Path: " ++ pathText path] }
  | dangling (hlen : path.length < maxDepth) (h : s.model? target = none) :
    CutOff s maxDepth path target
      { subject := target
        code := .danglingReference
        message := "$ref target '" ++ target ++ "' not found in schema; accepting any record"
        context := ["Path: " ++ pathText path] }

namespace CutOff
variable {s : Schema} {maxDepth : Nat} {path : List String} {target : String} {d : Diagnostic}

theorem length_le (h : CutOff s maxDepth path target d) : path.length ≤ maxDepth := by
  cases h <;> omega

theorem fields (h : CutOff s maxDepth path target d) : d.subject = target ∧
    ((d.code = .cyclicReference ∧ target ∈ path ∧ path.length ≤ maxDepth ∧
        d.context = ["Cycle: " ++ pathText path ++ " -> " ++ target]) ∨
      (d.code = .depthExceeded ∧ target ∉ path ∧ path.length = maxDepth ∧
        d.context = ["Path: " ++ pathText path]) ∨
      (d.code = .danglingReference ∧ s.model? target = none ∧ path.length < maxDepth ∧
        d.context = ["Path: " ++ pathText path])) := by
  cases h with
  | cycle hlen hmem => exact ⟨rfl, .inl ⟨rfl, hmem, hlen, rfl⟩⟩
  | depth hlen hnew => exact ⟨rfl, .inr (.inl ⟨rfl, hnew, hlen, rfl⟩)⟩
  | dangling hlen hnone => exact ⟨rfl, .inr (.inr ⟨rfl, hnone, hlen, rfl⟩)⟩

theorem iff_of_mem (hpath : s.IsPath path) (hlen : path.length ≤ maxDepth) (h : target ∈ path) :
    CutOff s maxDepth path target d ↔ d = .cyclicReference target (pathText path) := by
  constructor
  · intro hcut
    cases hcut with
    | cycle => rfl
    | depth _ hnot => exact absurd h hnot
    | dangling _ hnone =>
      obtain ⟨m, hm⟩ := hpath.known target h
      rw [hm] at hnone
      cases hnone
  · rintro rfl
    exact .cycle hlen h

theorem iff_of_length_eq (hlen : path.length = maxDepth) (h : target ∉ path) :
    CutOff s maxDepth path target d ↔ d = .depthExceeded target (pathText path) maxDepth := by
  constructor
  · intro hcut
    cases hcut with
    | cycle _ hmem => exact absurd hmem h
    | depth => rfl
    | dangling hlt => omega
  · rintro rfl
    exact .depth hlen h

theorem iff_of_length_lt (hlen : path.length < maxDepth) (h : target ∉ path) :
    CutOff s maxDepth path target d ↔
      s.model? target = none ∧ d = .danglingReference target (pathText path) := by
  constructor
  · intro hcut
    cases hcut with
    | cycle _ hmem => exact absurd hmem h
    | depth heq => omega
    | dangling _ hnone => exact ⟨hnone, rfl⟩
  · intro h
    obtain ⟨hnone, rfl⟩ := h
    exact .dangling hlen hnone

end CutOff

/-- The chain runs on from the end of a path and is cut off, which leaves the diagnostic. -/
def LeadsToCut (s : Schema) (maxDepth : Nat) (path : List String) (m : Model) (c : Chain)
    (d : Diagnostic) : Prop :=
  Chain.Runs s m c.followed c.last ∧ (path ++ c.trail).Nodup ∧
    CutOff s maxDepth (path ++ c.trail) c.target d

namespace LeadsToCut
variable {s : Schema} {maxDepth : Nat} {path : List String} {m : Model} {l : Link} {d : Diagnostic}

theorem last_iff (hpath : s.IsPath path) :
    LeadsToCut s maxDepth path m ⟨[], l⟩ d ↔
      l ∈ m.links ∧ CutOff s maxDepth path l.1.target d := by
  simp [LeadsToCut, Chain.Runs, Chain.trail, Chain.target, hpath.nodup]

theorem after_iff {c : Chain} :
    LeadsToCut s maxDepth path m (c.after l) d ↔
      l ∈ m.links ∧ ∃ next, s.model? l.1.target = some next ∧
        LeadsToCut s maxDepth (path ++ [l.1.target]) next c d := by
  have htarget : (c.after l).target = c.target := rfl
  unfold LeadsToCut
  rw [Chain.append_trail_after, htarget]
  constructor
  · intro h
    obtain ⟨⟨hl, next, hnext, hrest⟩, hcut⟩ := h
    exact ⟨hl, next, hnext, hrest, hcut⟩
  · intro h
    obtain ⟨hl, next, hnext, hrest, hcut⟩ := h
    exact ⟨⟨hl, next, hnext, hrest⟩, hcut⟩

theorem new_of_after {c : Chain} (h : LeadsToCut s maxDepth path m (c.after l) d) :
    l.1.target ∉ path ∧ path.length < maxDepth := by
  obtain ⟨-, hnodup, hcut⟩ := h
  have htrail : (c.after l).trail = l.1.target :: c.trail := rfl
  have hlen := hcut.length_le
  rw [htrail] at hnodup hlen
  refine ⟨fun hmem => ?_, ?_⟩
  · exact (List.nodup_append.mp hnodup).2.2 _ hmem _ List.mem_cons_self rfl
  · rw [List.length_append, List.length_cons] at hlen
    omega

theorem first_mem {c : Chain} (h : LeadsToCut s maxDepth path m c d) : c.first ∈ m.links := by
  obtain ⟨_ | ⟨first, rest⟩, last⟩ := c
  · exact h.1
  · exact h.1.1

/-- Where no chain goes on, all that can be cut off is the link itself. -/
theorem stops_iff (hpath : s.IsPath path) (hl : l ∈ m.links)
    (hstop : ∀ rest, ¬LeadsToCut s maxDepth path m (Chain.after l rest) d) (c : Chain) :
    (c.first = l ∧ LeadsToCut s maxDepth path m c d) ↔
      c = ⟨[], l⟩ ∧ CutOff s maxDepth path l.1.target d := by
  obtain ⟨_ | ⟨first, rest⟩, last⟩ := c
  · constructor
    · intro h
      obtain ⟨rfl, hcut⟩ := h
      exact ⟨rfl, ((last_iff hpath).mp hcut).2⟩
    · intro h
      obtain ⟨heq, hcut⟩ := h
      cases heq
      exact ⟨rfl, (last_iff hpath).mpr ⟨hl, hcut⟩⟩
  · constructor
    · intro h
      obtain ⟨rfl, hcut⟩ := h
      exact absurd hcut (hstop ⟨rest, last⟩)
    · intro h
      obtain ⟨heq, -⟩ := h
      cases heq

end LeadsToCut

/-- The chains that begin with a link at the end of a path and are cut off, each with what is
recorded; `room` is the number of models that the path may still take up. -/
def cutsFrom (s : Schema) (room : Nat) (path : List String) (l : Link) :
    List (Chain × Diagnostic) :=
  if l.1.target ∈ path then [(⟨[], l⟩, .cyclicReference l.1.target (pathText path))]
  else
    match room with
    | 0 => [(⟨[], l⟩, .depthExceeded l.1.target (pathText path) path.length)]
    | room + 1 =>
      match s.model? l.1.target with
      | none => [(⟨[], l⟩, .danglingReference l.1.target (pathText path))]
      | some m =>
        (m.links.flatMap (cutsFrom s room (path ++ [l.1.target]))).map fun cut =>
          (cut.1.after l, cut.2)

section
variable {s : Schema} {maxDepth room : Nat} {path : List String}

/-- The listed chains are those that are cut off, with what is recorded of them. -/
theorem mem_cutsFrom (hpath : s.IsPath path) (hroom : path.length + room = maxDepth) {m : Model}
    {l : Link} (hl : l ∈ m.links) (c : Chain) (d : Diagnostic) :
    (c, d) ∈ cutsFrom s room path l ↔ c.first = l ∧ LeadsToCut s maxDepth path m c d := by
  induction room generalizing path m l c with
  | zero =>
    have hlen : path.length = maxDepth := by omega
    have hstop (rest : Chain) : ¬LeadsToCut s maxDepth path m (Chain.after l rest) d := by
      intro h
      have hlt := h.new_of_after.2
      omega
    rw [LeadsToCut.stops_iff hpath hl hstop]
    unfold cutsFrom
    by_cases hmem : l.1.target ∈ path
    · rw [CutOff.iff_of_mem hpath (by omega) hmem]
      simp [hmem]
    · rw [CutOff.iff_of_length_eq hlen hmem]
      simp [hmem, hlen]
  | succ room ih =>
    have hlen : path.length < maxDepth := by omega
    unfold cutsFrom
    by_cases hmem : l.1.target ∈ path
    · rw [LeadsToCut.stops_iff hpath hl (fun rest h => h.new_of_after.1 hmem),
        CutOff.iff_of_mem hpath (by omega) hmem]
      simp [hmem]
    rw [if_neg hmem]
    cases hnext : s.model? l.1.target with
    | none =>
      have hstop (rest : Chain) : ¬LeadsToCut s maxDepth path m (Chain.after l rest) d := by
        intro h
        obtain ⟨-, next, hsome, -⟩ := LeadsToCut.after_iff.mp h
        rw [hnext] at hsome
        cases hsome
      rw [LeadsToCut.stops_iff hpath hl hstop, CutOff.iff_of_length_lt hlen hmem]
      simp [hnext]
    | some next =>
      have hpath' := hpath.append hmem hnext
      have hroom' : (path ++ [l.1.target]).length + room = maxDepth := by
        rw [List.length_append, List.length_singleton]
        omega
      constructor
      · intro h
        obtain ⟨⟨c', d'⟩, hc', heq⟩ := List.mem_map.mp h
        cases heq
        obtain ⟨l', hl', hin⟩ := List.mem_flatMap.mp hc'
        have hcut := ((ih hpath' hroom' hl' c').mp hin).2
        exact ⟨rfl, LeadsToCut.after_iff.mpr ⟨hl, next, hnext, hcut⟩⟩
      · intro h
        obtain ⟨hfirst, hcut⟩ := h
        obtain ⟨_ | ⟨first, rest⟩, last⟩ := c
        · obtain rfl : last = l := hfirst
          have hcutOff := ((LeadsToCut.last_iff hpath).mp hcut).2
          rw [CutOff.iff_of_length_lt hlen hmem, hnext] at hcutOff
          cases hcutOff.1
        · obtain rfl : first = l := hfirst
          obtain ⟨-, next', hnext', hrest⟩ := LeadsToCut.after_iff (c := ⟨rest, last⟩).mp hcut
          rw [hnext, Option.some.injEq] at hnext'
          subst hnext'
          refine List.mem_map.mpr ⟨(⟨rest, last⟩, d), ?_, rfl⟩
          refine List.mem_flatMap.mpr ⟨_, hrest.first_mem, ?_⟩
          exact (ih hpath' hroom' hrest.first_mem _).mpr ⟨rfl, hrest⟩

private theorem first_of_mem_cutsFrom {l : Link} {c : Chain} {d : Diagnostic}
    (h : (c, d) ∈ cutsFrom s room path l) : c.first = l := by
  unfold cutsFrom at h
  split at h
  · rw [List.mem_singleton] at h
    cases h
    rfl
  · split at h
    · rw [List.mem_singleton] at h
      cases h
      rfl
    · split at h
      · rw [List.mem_singleton] at h
        cases h
        rfl
      · obtain ⟨cut, -, heq⟩ := List.mem_map.mp h
        cases heq
        rfl

private theorem nodup_of_links {links : List Link} (hlinks : links.Nodup)
    (h : ∀ l ∈ links, ((cutsFrom s room path l).map Prod.fst).Nodup) :
    ((links.flatMap (cutsFrom s room path)).map Prod.fst).Nodup := by
  rw [List.map_flatMap]
  refine List.nodup_flatMap.mpr ⟨h, hlinks.pairwise_of_forall_ne fun l _ l' _ hne => ?_⟩
  -- Chains that begin with different links are different.
  refine List.disjoint_left.mpr fun c hc hc' => hne ?_
  obtain ⟨⟨_, d⟩, hin, rfl⟩ := List.mem_map.mp hc
  obtain ⟨⟨_, d'⟩, hin', heq⟩ := List.mem_map.mp hc'
  cases heq
  rw [← first_of_mem_cutsFrom hin, first_of_mem_cutsFrom hin']

theorem cutsFrom_nodup (l : Link) : ((cutsFrom s room path l).map Prod.fst).Nodup := by
  induction room generalizing path l with
  | zero =>
    unfold cutsFrom
    split <;> exact List.nodup_singleton _
  | succ room ih =>
    unfold cutsFrom
    split
    · exact List.nodup_singleton _
    cases s.model? l.1.target with
    | none => exact List.nodup_singleton _
    | some next =>
      have hnext : ((next.links.flatMap (cutsFrom s room (path ++ [l.1.target]))).map
          Prod.fst).Nodup := nodup_of_links next.links_nodup fun l' _ => ih l'
      have hinj : Function.Injective (Chain.after l) := by
        rintro ⟨followed, last⟩ ⟨followed', last'⟩ heq
        cases heq
        rfl
      have := hnext.map hinj
      rw [List.map_map] at this ⊢
      exact this

end

theorem mem_cuts {s : Schema} {maxDepth : Nat} (m : Model) (c : Chain) (d : Diagnostic) :
    (c, d) ∈ m.links.flatMap (cutsFrom s maxDepth []) ↔
      c.IsFrom s m ∧ CutOff s maxDepth c.trail c.target d := by
  have hroom : ([] : List String).length + maxDepth = maxDepth := Nat.zero_add _
  have hcuts : LeadsToCut s maxDepth [] m c d ↔
      c.IsFrom s m ∧ CutOff s maxDepth c.trail c.target d := by
    constructor
    · intro h
      obtain ⟨hruns, hnodup, hcut⟩ := h
      exact ⟨⟨hruns, hnodup⟩, hcut⟩
    · intro h
      obtain ⟨⟨hruns, hnodup⟩, hcut⟩ := h
      exact ⟨hruns, hnodup, hcut⟩
  rw [← hcuts]
  constructor
  · intro h
    obtain ⟨l, hl, hin⟩ := List.mem_flatMap.mp h
    exact ((mem_cutsFrom .nil hroom hl c d).mp hin).2
  · intro h
    have hin := (mem_cutsFrom .nil hroom h.first_mem c d).mpr ⟨rfl, h⟩
    exact List.mem_flatMap.mpr ⟨_, h.first_mem, hin⟩

namespace Compile
variable {options : CompileOptions} {s : Schema} {path : List String} {room : Nat}

private theorem references_of_links
    (h : ∀ location (l : Link), (following options s path location l.1.pointer).references =
      (cutsFrom s room path l).map Prod.snd) (location : List String) (m : Model) :
    (model options (following options s path) location m).references =
      (m.links.flatMap (cutsFrom s room path)).map Prod.snd := by
  have hlocation (location : List String) (pointer : String) :
      (following options s path location pointer).references =
        (following options s path [] pointer).references :=
    (h location (⟨[], pointer⟩, 0)).trans (h [] (⟨[], pointer⟩, 0)).symm
  have hlinks : Occurrence.inModel [] m = m.links.map Prod.fst := by
    rw [Model.links, List.zipIdx_map_fst]
  rw [references_model hlocation m [] location, hlinks, List.flatMap_map, List.map_flatMap]
  exact List.flatMap_congr fun l _ => h [] l

/-- Following a link records what is listed for the chains that begin with it. -/
theorem references_following (hpath : s.IsPath path)
    (hroom : path.length + room = options.maxDepth) (location : List String) (l : Link) :
    (following options s path location l.1.pointer).references =
      (cutsFrom s room path l).map Prod.snd := by
  have hname : Pointer.modelName l.1.pointer = l.1.target := rfl
  induction room generalizing path location l with
  | zero =>
    have hlen : path.length = options.maxDepth := hroom
    rw [following_eq hpath, hname]
    unfold cutsFrom
    by_cases hmem : l.1.target ∈ path
    · rw [if_pos hmem, if_pos hmem, Compiled.references_degraded rfl]
      rfl
    · rw [if_neg hmem, if_neg hmem, if_pos (by omega), Compiled.references_degraded rfl, ← hlen]
      rfl
  | succ room ih =>
    rw [following_eq hpath, hname]
    unfold cutsFrom
    by_cases hmem : l.1.target ∈ path
    · rw [if_pos hmem, if_pos hmem, Compiled.references_degraded rfl]
      rfl
    rw [if_neg hmem, if_neg hmem, if_neg (by omega)]
    cases hnext : s.model? l.1.target with
    | none =>
      dsimp only
      rw [Compiled.references_degraded rfl]
      rfl
    | some next =>
      have hroom' : (path ++ [l.1.target]).length + room = options.maxDepth := by
        rw [List.length_append, List.length_singleton]
        omega
      have hlinks := references_of_links
        (fun location l' => ih (hpath.append hmem hnext) hroom' location l' rfl) location next
      dsimp only
      rw [hlinks, List.map_map]
      rfl

theorem references_ofSchema (options : CompileOptions) (s : Schema) (m : Model) :
    ((Compiler.ofSchema options s).model m).references =
      (m.links.flatMap (cutsFrom s options.maxDepth [])).map Prod.snd :=
  references_of_links (references_following .nil (Nat.zero_add _)) [] m

theorem references_modelAt (options : CompileOptions) (s : Schema) (location : List String)
    (m : Model) : ((Compiler.ofSchema options s).modelAt location m).references =
      ((Compiler.ofSchema options s).model m).references :=
  (references_of_links (references_following .nil (Nat.zero_add _)) location m).trans
    (references_ofSchema options s m).symm

theorem mem_modelAt_iff {d : Diagnostic} (h : d.isReference = true) (location : List String)
    (m : Model) : d ∈ ((Compiler.ofSchema options s).modelAt location m).diagnostics ↔
      d ∈ ((Compiler.ofSchema options s).model m).diagnostics := by
  have hmem (x : Compiled Shape) : d ∈ x.references ↔ d ∈ x.diagnostics := by
    rw [Compiled.references, List.mem_filter, and_iff_left h]
  rw [← hmem, ← hmem, references_modelAt]

/-- The diagnostics about references are one for each chain that leaves the model and is cut off,
and no others. Each has the code of its cut, the last target and the trail of its chain. -/
theorem reference_diagnostics_of_chains (options : CompileOptions) (s : Schema) (m : Model) :
    ∃ cuts : List (Chain × Diagnostic),
      (cuts.map Prod.fst).Nodup ∧
      (∀ c d, (c, d) ∈ cuts ↔
        c.IsFrom s m ∧ CutOff s options.maxDepth c.trail c.target d) ∧
      (∀ c d, (c, d) ∈ cuts → d.subject = c.target ∧
        ((d.code = .cyclicReference ∧ c.target ∈ c.trail ∧
            c.trail.length ≤ options.maxDepth ∧
            d.context = ["Cycle: " ++ pathText c.trail ++ " -> " ++ c.target]) ∨
          (d.code = .depthExceeded ∧ c.target ∉ c.trail ∧ c.trail.length = options.maxDepth ∧
            d.context = ["Path: " ++ pathText c.trail]) ∨
          (d.code = .danglingReference ∧ s.model? c.target = none ∧
            c.trail.length < options.maxDepth ∧ d.context = ["Path: " ++ pathText c.trail]))) ∧
      ((Compiler.ofSchema options s).model m).references = cuts.map Prod.snd := by
  refine ⟨m.links.flatMap (cutsFrom s options.maxDepth []), ?_, mem_cuts m, fun c d hcut => ?_,
    references_ofSchema options s m⟩
  · exact nodup_of_links m.links_nodup fun l _ => cutsFrom_nodup l
  · exact ((mem_cuts m c d).mp hcut).2.fields

end Compile
end RecordShape
