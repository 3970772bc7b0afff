import RecordShape.Proofs.Compile.Chains
import RecordShape.Proofs.Compile.Meaning

/-!
# What compiled models accept

Where no chain of references is cut off at a cycle or at the bound, the shape of a model accepts
the values that the model describes and no others. Whether a chain is cut off so can be told from
the diagnostics.
-/

namespace RecordShape

/-- No chain that leaves the model leads back to a model it goes through, or goes through as many
models as may be followed. -/
def Uncut (s : Schema) (maxDepth : Nat) (m : Model) : Prop :=
  ∀ c : Chain, c.IsFrom s m → c.target ∉ c.trail ∧ c.trail.length < maxDepth

theorem Chain.exists_depth_cut {s : Schema} {maxDepth : Nat} {m : Model} {c : Chain}
    (hc : c.IsFrom s m) (hlen : maxDepth < c.trail.length) :
    ∃ (c' : Chain) (d : Diagnostic),
      c'.IsFrom s m ∧ CutOff s maxDepth c'.trail c'.target d ∧ d.code = .depthExceeded := by
  have hlt : maxDepth < c.followed.length := by rwa [trail, List.length_map] at hlen
  have hsplit : c.followed = c.followed.take maxDepth ++
      c.followed[maxDepth] :: c.followed.drop (maxDepth + 1) := by
    rw [← List.drop_eq_getElem_cons hlt, List.take_append_drop]
  have hruns := hc.runs
  have hnodup := hc.nodup
  rw [hsplit] at hruns
  rw [trail, hsplit, List.map_append, List.map_cons] at hnodup
  have hlength : (List.map (fun l : Link => l.1.target) (c.followed.take maxDepth)).length =
      maxDepth := by
    rw [List.length_map, List.length_take]
    omega
  refine ⟨⟨c.followed.take maxDepth, c.followed[maxDepth]⟩, _,
    ⟨runs_to hruns, (List.nodup_append.mp hnodup).1⟩, .depth hlength fun hmem => ?_, rfl⟩
  exact (List.nodup_append.mp hnodup).2.2 _ hmem _ List.mem_cons_self rfl

namespace Compile
variable {options : CompileOptions} {s : Schema}

theorem exists_cut_of_mem {m : Model} {d : Diagnostic}
    (h : d ∈ ((Compiler.ofSchema options s).model m).diagnostics) (href : d.isReference = true) :
    ∃ c : Chain, c.IsFrom s m ∧ CutOff s options.maxDepth c.trail c.target d := by
  have hmem : d ∈ ((Compiler.ofSchema options s).model m).references :=
    List.mem_filter.mpr ⟨h, href⟩
  rw [references_ofSchema] at hmem
  obtain ⟨⟨c, _⟩, hcut, rfl⟩ := List.mem_map.mp hmem
  exact ⟨c, (mem_cuts m c _).mp hcut⟩

theorem mem_diagnostics_of_cut {m : Model} {c : Chain} {d : Diagnostic} (hc : c.IsFrom s m)
    (hcut : CutOff s options.maxDepth c.trail c.target d) :
    d ∈ ((Compiler.ofSchema options s).model m).diagnostics := by
  have hmem : d ∈ ((Compiler.ofSchema options s).model m).references := by
    rw [references_ofSchema]
    exact List.mem_map.mpr ⟨(c, d), (mem_cuts m c d).mpr ⟨hc, hcut⟩, rfl⟩
  exact List.mem_of_mem_filter hmem

theorem uncut_iff (options : CompileOptions) (s : Schema) (m : Model) :
    Uncut s options.maxDepth m ↔ ∀ d ∈ ((Compiler.ofSchema options s).model m).diagnostics,
      d.code ≠ .cyclicReference ∧ d.code ≠ .depthExceeded := by
  constructor
  · intro huncut d hd
    have hnot (href : d.isReference = true) : d.code = .danglingReference := by
      obtain ⟨c, hc, hcut⟩ := exists_cut_of_mem hd href
      obtain ⟨hnew, hlen⟩ := huncut c hc
      cases hcut with
      | cycle _ hmem => exact absurd hmem hnew
      | depth heq => omega
      | dangling => rfl
    constructor <;> intro hcode
    · rw [hnot (by rw [Diagnostic.isReference, hcode])] at hcode
      cases hcode
    · rw [hnot (by rw [Diagnostic.isReference, hcode])] at hcode
      cases hcode
  · intro h c hc
    have hle : c.trail.length ≤ options.maxDepth := by
      by_contra hlt
      obtain ⟨c', d, hc', hcut, hcode⟩ := c.exists_depth_cut hc (Nat.lt_of_not_le hlt)
      exact (h d (mem_diagnostics_of_cut hc' hcut)).2 hcode
    have hnew : c.target ∉ c.trail := fun hmem =>
      (h _ (mem_diagnostics_of_cut hc (.cycle hle hmem))).1 rfl
    refine ⟨hnew, Nat.lt_of_le_of_ne hle fun hlen => ?_⟩
    exact (h _ (mem_diagnostics_of_cut hc (.depth hlen hnew))).2 rfl

/-- If no chain on from a path is cut off, everything at the end of the path is accepted as it is
meant. -/
theorem accepts_at_path {path : List String} (hpath : s.IsPath path) (m : Model)
    (huncut : ∀ c : Chain, Chain.Runs s m c.followed c.last → (path ++ c.trail).Nodup →
      c.target ∉ path ++ c.trail ∧ (path ++ c.trail).length < options.maxDepth)
    (location : List String) (j : Json) :
    (model options (following options s path) location m).value.accepts j = true ↔
      s.Conforms options.unknownKeys m j := by
  induction path, hpath using Schema.IsPath.induction_on generalizing m location j with
  | step path hpath ih =>
  refine model_accepts_iff m [] (fun o ho location j => ?_) location j
  obtain ⟨position, hlink⟩ := Model.mem_links ho
  -- The reference alone is a chain.
  have hlast := huncut ⟨[], (o, position)⟩ hlink (by simpa [Chain.trail] using hpath.nodup)
  have hnew : o.target ∉ path := by simpa [Chain.trail, Chain.target] using hlast.1
  have hlen : path.length < options.maxDepth := by simpa [Chain.trail] using hlast.2
  have hname : Pointer.modelName o.pointer = o.target := rfl
  rw [following_eq hpath, Schema.PointerConforms, hname, if_neg hnew, if_neg (by omega)]
  cases hnext : s.model? o.target with
  | none => simp [Json.IsObject]
  | some next =>
    refine ih o.target next hnew hnext next (fun c hruns hnodup => ?_) location j
    have hchain := huncut (c.after (o, position)) ⟨hlink, next, hnext, hruns⟩
      (by rwa [Chain.append_trail_after])
    rwa [Chain.append_trail_after] at hchain

/-- The shape of a model accepts the values that the model describes and no others, unless a chain
of references is cut off at a cycle or at the bound; the diagnostics tell whether one is. -/
theorem ofSchema_accepts_iff_conforms (options : CompileOptions) (s : Schema) (m : Model) :
    (Uncut s options.maxDepth m ↔ ∀ d ∈ ((Compiler.ofSchema options s).model m).diagnostics,
      d.code ≠ .cyclicReference ∧ d.code ≠ .depthExceeded) ∧
    (Uncut s options.maxDepth m → ∀ j,
      ((Compiler.ofSchema options s).model m).value.accepts j = true ↔
        s.Conforms options.unknownKeys m j) := by
  refine ⟨uncut_iff options s m, fun huncut => ?_⟩
  exact accepts_at_path .nil m (fun c hruns hnodup => huncut c ⟨hruns, hnodup⟩) []

/-- Players have a role, which is one of two, a team and a count of goals; teams have a name. -/
def playerModel : Model where
  kind := .object
  properties :=
    [("goals", { kind := .integer }),
      ("role", { kind := .string
                 constraints := { values := some [.str "keeper", .null, .str "back"] } }),
      ("team", .toModel "Team")]
  required := ["role", "team"]

def playerSchema : Schema where
  models :=
    [("Player", playerModel),
      ("Team", { kind := .object, properties := [("name", { kind := .string })] })]

/-- A player with some role and team. -/
def player (role team : Json) : Json :=
  .obj [("goals", .num (.int 3)), ("role", role), ("team", team)]

theorem ofSchema_accepts_iff_conforms_player : Uncut playerSchema 10 playerModel ∧
    playerSchema.Conforms .allow playerModel
      (player (.str "back") (.obj [("name", .str "Blue")])) ∧
    ¬playerSchema.Conforms .allow playerModel
      (player (.str "coach") (.obj [("name", .str "Blue")])) ∧
    ¬playerSchema.Conforms .allow playerModel (player (.str "back") (.str "Blue")) := by
  have h := ofSchema_accepts_iff_conforms {} playerSchema playerModel
  have huncut : Uncut playerSchema 10 playerModel := h.1.mpr (by decide +kernel)
  refine ⟨huncut, (h.2 huncut _).mp (by decide +kernel), fun hrole => ?_, fun hteam => ?_⟩
  · have haccepts := (h.2 huncut _).mpr hrole
    revert haccepts
    decide +kernel
  · have haccepts := (h.2 huncut _).mpr hteam
    revert haccepts
    decide +kernel

end Compile
end RecordShape
