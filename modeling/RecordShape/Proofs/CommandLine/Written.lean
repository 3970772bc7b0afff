import RecordShape.CommandLine.Check
import RecordShape.Proofs.Reading.Printed
import RecordShape.Proofs.Shape.Violations

/-!
# The written report is read back

A report holds texts, marks and a few numbers: how many files there are and where in an array an
issue lies. If these are words, the text of the report is read as the report, in either format.
-/

namespace RecordShape

/-- The lengths of the arrays in a value are words. -/
inductive Json.HasWordLengths : Json → Prop where
  | null : HasWordLengths .null
  | bool (b : Bool) : HasWordLengths (.bool b)
  | num (n : Number) : HasWordLengths (.num n)
  | str (s : String) : HasWordLengths (.str s)
  | arr {items : List Json} (hlength : IsWord items.length) (h : ∀ j ∈ items, HasWordLengths j) :
    HasWordLengths (.arr items)
  | obj {members : List (String × Json)} (h : ∀ m ∈ members, HasWordLengths m.2) :
    HasWordLengths (.obj members)

theorem Json.HasWordLengths.isWord_length {j : Json} {place : Path} {items : List Json}
    (h : j.HasWordLengths) (hpart : j.at? place = some (.arr items)) : IsWord items.length := by
  induction place generalizing j with
  | nil =>
    cases hpart
    cases h with
    | arr hlength _ => exact hlength
  | cons segment place ih =>
    cases h with
    | arr _ h =>
      cases segment with
      | key key => cases hpart
      | index i =>
        obtain ⟨e, he, hpart⟩ := Option.bind_eq_some_iff.mp hpart
        exact ih (h e (List.mem_of_getElem? he)) hpart
    | obj h =>
      cases segment with
      | key key =>
        obtain ⟨e, he, hpart⟩ := Option.bind_eq_some_iff.mp hpart
        exact ih (h (key, e) (KeyMap.mem_of_find?_eq_some he)) hpart
      | index i => cases hpart
    | _ => cases segment <;> cases hpart

/-- The number of files and the lengths of the arrays in them are words, as they are wherever the
files can be held in memory. -/
structure HaveWordSizes (files : List (String × Except FileError String)) : Prop where
  count : IsWord files.length
  arrays : ∀ f ∈ files, ∀ s j, f.2 = .ok s → Json.ofText s = .ok j → j.normalize.HasWordLengths

theorem PathSegment.fits_toJson (levels : Nat) {segment : PathSegment}
    (h : ∀ i, segment = .index i → IsWord i) : segment.toJson.Fits (levels + 1) := by
  cases segment with
  | key name => exact .obj (List.forall_mem_singleton.mpr (.str _ _))
  | index i => exact .obj (List.forall_mem_singleton.mpr (.word _ (h i rfl)))

theorem Json.Fits.optional {levels : Nat} {c : Prop} [Decidable c] {m : String × Json}
    (h : m.2.Fits levels) : ∀ m' ∈ (if c then [] else [m]), m'.2.Fits levels := by
  split_ifs
  · exact List.forall_mem_nil _
  · exact List.forall_mem_singleton.mpr h

theorem Issue.fits_toJson (levels : Nat) {issue : Issue}
    (h : ∀ i, .index i ∈ issue.path → IsWord i) : issue.toJson.Fits (levels + 3) := by
  have hpath : (Json.arr (issue.path.map PathSegment.toJson)).Fits (levels + 2) := by
    refine .arr (List.forall_mem_map.mpr fun segment hsegment => ?_)
    exact segment.fits_toJson levels fun i hi => h i (hi ▸ hsegment)
  refine .obj ?_
  simp only [List.forall_mem_cons]
  exact ⟨.str _ _, .str _ _, hpath, List.forall_mem_nil _⟩

theorem Diagnostics.fits_toJson (levels : Nat) (ds : Diagnostics) :
    ds.toJson.Fits (levels + 4) := by
  refine .obj (List.forall_mem_singleton.mpr (.arr (List.forall_mem_map.mpr fun d _ => ?_)))
  have hcontext : (Json.strings d.context).Fits (levels + 1) :=
    .arr (List.forall_mem_map.mpr fun text _ => .str _ text)
  refine .obj ?_
  simp only [List.forall_mem_append, List.forall_mem_cons]
  exact ⟨⟨⟨.str _ _, List.forall_mem_nil _⟩, .optional hcontext⟩, .str _ _, .str _ _,
    List.forall_mem_nil _⟩

theorem FileResult.fits_toJson (levels : Nat) {r : FileResult}
    (h : ∀ issue ∈ r.issues, ∀ i, .index i ∈ issue.path → IsWord i) :
    r.toJson.Fits (levels + 5) := by
  have hissues : (Json.arr (r.issues.map Issue.toJson)).Fits (levels + 4) :=
    .arr (List.forall_mem_map.mpr fun issue hissue => issue.fits_toJson levels (h issue hissue))
  refine .obj ?_
  simp only [List.forall_mem_append, List.forall_mem_cons, List.forall_mem_map]
  exact ⟨⟨fun reason _ => .str _ reason, .optional hissues⟩, .str _ _, .bool _ _,
    List.forall_mem_nil _⟩

theorem CheckRun.fits_report (levels : Nat) {run : CheckRun} (hcount : IsWord run.results.length)
    (hindices : ∀ r ∈ run.results, ∀ issue ∈ r.issues, ∀ i, .index i ∈ issue.path → IsWord i)
    (time : String) : (run.report time).Fits (levels + 7) := by
  have hresults : (Json.arr (run.results.map FileResult.toJson)).Fits (levels + 6) :=
    .arr (List.forall_mem_map.mpr fun r hr => r.fits_toJson levels (hindices r hr))
  have hfailed : IsWord run.failed := hcount.of_le (List.length_filter_le _ _)
  have hpassed : IsWord (run.results.length - run.failed) := hcount.of_le (Nat.sub_le _ _)
  refine .obj ?_
  simp only [List.forall_mem_cons]
  exact ⟨run.diagnostics.fits_toJson _, .word _ hcount, .word _ hfailed, .str _ _, .str _ _,
    .word _ hpassed, hresults, .str _ _, List.forall_mem_nil _⟩

namespace FileResult

theorem outcome_ofText_eq_ok_iff {document : ObjectShape} {path : String}
    {text : Except FileError String} {report : Report} :
    (ofText document path text).outcome = .ok report ↔
      ∃ s j, text = .ok s ∧ Json.ofText s = .ok j ∧ document.check j.normalize = report := by
  cases text with
  | error e => simp [ofText, Except.mapError, bind, Except.bind]
  | ok s =>
    cases hread : Json.ofText s with
    | error e => simp [ofText, Except.mapError, bind, Except.bind, hread]
    | ok j => simp [ofText, Except.mapError, bind, Except.bind, hread, pure, Except.pure]

theorem exists_of_mem_issues {document : ObjectShape} {path : String}
    {text : Except FileError String} {issue : Issue}
    (h : issue ∈ (ofText document path text).issues) :
    ∃ s j, text = .ok s ∧ Json.ofText s = .ok j ∧
      issue ∈ (document.check j.normalize).issues := by
  unfold issues at h
  split at h
  · rename_i report houtcome
    obtain ⟨s, j, hs, hj, rfl⟩ := outcome_ofText_eq_ok_iff.mp houtcome
    exact ⟨s, j, hs, hj, h⟩
  · cases h

end FileResult

/-- The text of a report is read as the report. -/
theorem CheckRun.ofText_render_report {run : CheckRun}
    {files : List (String × Except FileError String)}
    (h : run.results = files.map fun f => FileResult.ofText run.document f.1 f.2)
    (hsizes : HaveWordSizes files) (format : OutputFormat) (time : String) :
    Json.ofText (format.render (run.report time)) = .ok (run.report time) := by
  have hcount : IsWord run.results.length := by
    rw [h, List.length_map]
    exact hsizes.count
  refine format.ofText_render (run.fits_report 120 hcount ?_ time)
  intro r hr issue hissue i hi
  rw [h, List.mem_map] at hr
  obtain ⟨f, hf, rfl⟩ := hr
  obtain ⟨s, j, hs, hj, hissue⟩ := FileResult.exists_of_mem_issues hissue
  -- An index is one of an array of the value that the file holds.
  obtain ⟨place, items, hitems, hlt⟩ := Shape.exists_arr_of_issue hissue hi
  exact ((hsizes.arrays f hf s j hs hj).isWord_length hitems).of_le (Nat.le_of_lt hlt)

end RecordShape
