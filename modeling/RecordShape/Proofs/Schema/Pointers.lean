import Mathlib.Data.List.TakeWhile
import Mathlib.Data.List.Infix
import RecordShape.Proofs.Text.Splitting
import RecordShape.Schema.Pointer

/-!
# The names that pointers spell

A pointer is a folder and a last segment. The name is the segment without a file suffix, and the
longer suffix goes first: a name that ends in the first part of it needs the whole of it.
-/

namespace RecordShape.Pointer

/-- Nothing, or a text that ends in a slash. -/
def IsFolder (folder : String) : Prop := folder = "" ∨ ∃ before, folder = before ++ "/"

theorem slash_not_mem_lastSegment (s : List Char) : '/' ∉ lastSegment s := by
  rw [lastSegment, List.mem_reverse]
  intro hmem
  simpa using List.mem_takeWhile_imp hmem

theorem lastSegment_of_slash_not_mem {s : List Char} (h : '/' ∉ s) : lastSegment s = s := by
  rw [lastSegment, List.takeWhile_eq_self_iff.mpr, List.reverse_reverse]
  intro c hc
  have hne : c ≠ '/' := fun heq => h (heq ▸ List.mem_reverse.mp hc)
  simpa using hne

theorem lastSegment_append_slash (before : List Char) {s : List Char} (h : '/' ∉ s) :
    lastSegment (before ++ '/' :: s) = s := by
  have hreverse : (before ++ '/' :: s).reverse = s.reverse ++ '/' :: before.reverse := by simp
  have hne : ∀ c ∈ s.reverse, decide (c ≠ '/') = true := by
    intro c hc
    have hne : c ≠ '/' := fun heq => h (heq ▸ List.mem_reverse.mp hc)
    simpa using hne
  rw [lastSegment, hreverse, List.takeWhile_append_of_pos hne, List.takeWhile_cons]
  simp

theorem lastSegment_append {folder segment : String} (hfolder : IsFolder folder)
    (hsegment : '/' ∉ segment.toList) :
    lastSegment (folder ++ segment).toList = segment.toList := by
  rcases hfolder with rfl | ⟨before, rfl⟩
  · simpa using lastSegment_of_slash_not_mem hsegment
  · have hlist : (before ++ "/" ++ segment).toList = before.toList ++ '/' :: segment.toList := by
      simp
    rw [hlist, lastSegment_append_slash _ hsegment]

/-- Every pointer is a folder and a segment. -/
theorem exists_folder (pointer : String) : ∃ folder segment, pointer = folder ++ segment ∧
    IsFolder folder ∧ '/' ∉ segment.toList := by
  by_cases hslash : '/' ∈ pointer.toList
  · obtain ⟨before, after, hlist, hafter⟩ := exists_last_cut hslash
    refine ⟨String.ofList before ++ "/", String.ofList after, ?_, .inr ⟨_, rfl⟩,
      by simpa using hafter⟩
    rw [← String.toList_inj, hlist]
    simp
  · exact ⟨"", pointer, by simp, .inl rfl, hslash⟩

theorem dropEnding?_append (s ending : List Char) : dropEnding? ending (s ++ ending) = some s := by
  have hsuffix : ending.isSuffixOf (s ++ ending) = true :=
    List.isSuffixOf_iff_suffix.mpr (List.suffix_append s ending)
  simp [dropEnding?, hsuffix]

theorem dropEnding?_eq_none_iff {s ending : List Char} :
    dropEnding? ending s = none ↔ ¬ending <:+ s := by
  rw [dropEnding?, ← List.isSuffixOf_iff_suffix]
  split_ifs with h <;> simp [h]

theorem prefix_of_dropEnding? {ending s name : List Char} (h : dropEnding? ending s = some name) :
    name <+: s := by
  rw [dropEnding?] at h
  split_ifs at h
  exact Option.some.inj h ▸ List.take_prefix _ _

theorem suffix_toList_iff {text ending : String} :
    ending.toList <:+ text.toList ↔ ∃ stem, text = stem ++ ending := by
  constructor
  · intro h
    obtain ⟨stem, hstem⟩ := h
    refine ⟨String.ofList stem, ?_⟩
    rw [← String.toList_inj, String.toList_append, String.toList_ofList, hstem]
  · intro h
    obtain ⟨stem, rfl⟩ := h
    rw [String.toList_append]
    exact List.suffix_append _ _

/-- The name that a segment spells. -/
def segmentName (segment : List Char) : List Char :=
  match dropEnding? ".schema.json".toList segment with
  | some name => name
  | none => (dropEnding? ".json".toList segment).getD segment

theorem toList_modelName (pointer : String) :
    (modelName pointer).toList = segmentName (lastSegment pointer.toList) := by
  rw [modelName, String.toList_ofList]
  rfl

theorem segmentName_schema_json (name : List Char) :
    segmentName (name ++ ".schema.json".toList) = name := by
  rw [segmentName, dropEnding?_append]

theorem schema_json_toList :
    ".schema".toList ++ ".json".toList = ".schema.json".toList := rfl

theorem segmentName_json {name : List Char} (h : ¬".schema".toList <:+ name) :
    segmentName (name ++ ".json".toList) = name := by
  have hlonger : dropEnding? ".schema.json".toList (name ++ ".json".toList) = none := by
    rw [dropEnding?_eq_none_iff, ← schema_json_toList, List.suffix_append_self_iff]
    exact h
  rw [segmentName, hlonger, dropEnding?_append]
  rfl

theorem segmentName_plain {name : List Char} (h : ¬".json".toList <:+ name) :
    segmentName name = name := by
  have hlonger : dropEnding? ".schema.json".toList name = none :=
    dropEnding?_eq_none_iff.mpr fun hsuffix =>
      h ((List.suffix_append ".schema".toList _).trans hsuffix)
  rw [segmentName, hlonger, dropEnding?_eq_none_iff.mpr h]
  rfl

theorem segmentName_ne {segment : List Char} (h : ".json".toList <:+ segment) :
    segmentName segment ≠ segment := by
  obtain ⟨stem, rfl⟩ := h
  by_cases hschema : ".schema".toList <:+ stem
  · obtain ⟨name, rfl⟩ := hschema
    rw [List.append_assoc, schema_json_toList, segmentName_schema_json]
    simp
  · rw [segmentName_json hschema]
    simp

theorem segmentName_isStart (segment : List Char) : segmentName segment <+: segment := by
  rw [segmentName]
  cases hlonger : dropEnding? ".schema.json".toList segment with
  | some name => exact prefix_of_dropEnding? hlonger
  | none =>
    cases hshorter : dropEnding? ".json".toList segment with
    | some name => exact prefix_of_dropEnding? hshorter
    | none => exact List.prefix_refl segment

theorem slash_not_mem_modelName (pointer : String) : '/' ∉ (modelName pointer).toList := by
  rw [toList_modelName]
  exact fun hmem => slash_not_mem_lastSegment _ ((segmentName_isStart _).subset hmem)

section
variable {folder segment name : String} (hfolder : IsFolder folder)
include hfolder

theorem toList_modelName_append (hsegment : '/' ∉ segment.toList) :
    (modelName (folder ++ segment)).toList = segmentName segment.toList := by
  rw [toList_modelName, lastSegment_append hfolder hsegment]

theorem modelName_schema_json (hname : '/' ∉ name.toList) :
    modelName (folder ++ (name ++ ".schema.json")) = name := by
  rw [← String.toList_inj, toList_modelName_append hfolder (by simpa using hname),
    String.toList_append, segmentName_schema_json]

theorem modelName_plain_iff (hname : '/' ∉ name.toList) :
    modelName (folder ++ name) = name ↔ ¬∃ stem, name = stem ++ ".json" := by
  rw [← String.toList_inj, toList_modelName_append hfolder hname, ← suffix_toList_iff]
  exact ⟨fun hsame hsuffix => segmentName_ne hsuffix hsame, segmentName_plain⟩

theorem modelName_json_iff (hname : '/' ∉ name.toList) :
    modelName (folder ++ (name ++ ".json")) = name ↔ ¬∃ stem, name = stem ++ ".schema" := by
  rw [← String.toList_inj, toList_modelName_append hfolder (by simpa using hname),
    String.toList_append, ← suffix_toList_iff]
  refine ⟨fun hsame hsuffix => ?_, segmentName_json⟩
  obtain ⟨stem, hstem⟩ := hsuffix
  rw [← hstem, List.append_assoc, schema_json_toList, segmentName_schema_json] at hsame
  simp at hsame

end

end RecordShape.Pointer
