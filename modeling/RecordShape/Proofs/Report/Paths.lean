import RecordShape.Proofs.Text.Splitting
import RecordShape.Report.Issue

/-!
# Paths told apart by their texts

The text of a segment begins with a dot or with a bracket. Where no key contains one of these, the
next of them begins the next segment, so that the text of a path can be taken apart again, and
different paths have different texts. The text for the value itself begins like no segment.
-/

namespace RecordShape

namespace PathSegment

/-- An index, or a key without the characters that begin segments. -/
def IsPlain : PathSegment → Prop
  | key name => '.' ∉ name.toList ∧ '[' ∉ name.toList
  | index _ => True

instance : DecidablePred IsPlain
  | key name => inferInstanceAs (Decidable ('.' ∉ name.toList ∧ '[' ∉ name.toList))
  | index _ => inferInstanceAs (Decidable True)

/-- Does not begin a segment. -/
def isInner (c : Char) : Bool := c ≠ '.' && c ≠ '['

/-- The text ends here, or another segment begins. -/
def Ends (s : List Char) : Prop := ∀ c ∈ s.head?, isInner c = false

theorem toList_text_key (name : String) : (key name).text.toList = '.' :: name.toList := by
  simp [text]

theorem toList_text_index (i : Nat) :
    (index i).text.toList = '[' :: (Nat.toDigits 10 i ++ [']']) := by
  simp [text, Nat.repr_eq_ofList_toDigits]

theorem ends_text_append (segment : PathSegment) (rest : List Char) :
    Ends (segment.text.toList ++ rest) := by
  cases segment with
  | key name =>
    rw [toList_text_key]
    simp [Ends, isInner]
  | index i =>
    rw [toList_text_index]
    simp [Ends, isInner]

/-- A segment is told apart from what follows it. -/
theorem text_append_inj {a b : PathSegment} (ha : a.IsPlain) (hb : b.IsPlain)
    {rest rest' : List Char} (hrest : Ends rest) (hrest' : Ends rest')
    (h : a.text.toList ++ rest = b.text.toList ++ rest') : a = b ∧ rest = rest' := by
  cases a with
  | key name =>
    cases b with
    | key name' =>
      simp only [toList_text_key, List.cons_append, List.cons.injEq, true_and] at h
      have hinner {name : String} (hname : (key name).IsPlain) :
          ∀ c ∈ name.toList, isInner c = true := by
        intro c hc
        have hdot : c ≠ '.' := fun heq => hname.1 (heq ▸ hc)
        have hbracket : c ≠ '[' := fun heq => hname.2 (heq ▸ hc)
        simp [isInner, hdot, hbracket]
      obtain ⟨hname, hsame⟩ := append_inj_of_stretch (hinner ha) (hinner hb) hrest hrest' h
      exact ⟨congrArg key (String.toList_injective hname), hsame⟩
    | index i => simp [toList_text_key, toList_text_index] at h
  | index i =>
    cases b with
    | key name => simp [toList_text_key, toList_text_index] at h
    | index i' =>
      simp only [toList_text_index, List.cons_append, List.cons.injEq, true_and,
        List.append_assoc, List.nil_append] at h
      -- The digits end at the closing bracket.
      have hdigits (i : Nat) : ∀ c ∈ Nat.toDigits 10 i, c.isDigit = true := fun c hc =>
        Nat.isDigit_of_mem_toDigits (by decide) (by decide) hc
      have hclosed (rest : List Char) : ∀ c ∈ (']' :: rest).head?, c.isDigit = false := by
        simp
      obtain ⟨hi, hsame⟩ :=
        append_inj_of_stretch (hdigits i) (hdigits i') (hclosed rest) (hclosed rest') h
      have hindex : i = i' := by
        rw [← Nat.ofDigitChars_ten_toDigits (n := i), hi, Nat.ofDigitChars_ten_toDigits]
      exact ⟨congrArg index hindex, (List.cons.inj hsame).2⟩

end PathSegment

namespace Path
open PathSegment

/-- No key in the path has a dot or an opening bracket in it. -/
def IsPlain (path : Path) : Prop := ∀ segment ∈ path, segment.IsPlain

instance (path : Path) : Decidable path.IsPlain :=
  inferInstanceAs (Decidable (∀ segment ∈ path, segment.IsPlain))

theorem isPlain_cons {segment : PathSegment} {path : Path} :
    IsPlain (segment :: path) ↔ segment.IsPlain ∧ path.IsPlain := List.forall_mem_cons

/-- The texts of the segments one after another. -/
def chars (path : Path) : List Char := path.flatMap fun segment => segment.text.toList

theorem ends_chars (path : Path) : Ends path.chars := by
  cases path with
  | nil => simp [Ends, chars]
  | cons segment path =>
    rw [chars, List.flatMap_cons]
    exact ends_text_append segment _

theorem chars_cons_ne_nil (segment : PathSegment) (path : Path) : chars (segment :: path) ≠ [] := by
  rw [chars, List.flatMap_cons]
  cases segment with
  | key name => simp [toList_text_key]
  | index i => simp [toList_text_index]

theorem eq_of_chars_eq {p q : Path} (hp : p.IsPlain) (hq : q.IsPlain) (h : p.chars = q.chars) :
    p = q := by
  induction p generalizing q with
  | nil =>
    cases q with
    | nil => rfl
    | cons segment q => exact absurd h.symm (chars_cons_ne_nil segment q)
  | cons segment p ih =>
    cases q with
    | nil => exact absurd h (chars_cons_ne_nil segment p)
    | cons segment' q =>
      obtain ⟨hsegment, hrestp⟩ := isPlain_cons.mp hp
      obtain ⟨hsegment', hrestq⟩ := isPlain_cons.mp hq
      obtain ⟨rfl, hrest⟩ :=
        text_append_inj hsegment hsegment' (ends_chars p) (ends_chars q) h
      rw [ih hrestp hrestq hrest]

theorem toList_text (path : Path) :
    path.text.toList = if path = [] then "<root>".toList else path.chars := by
  cases path with
  | nil => rfl
  | cons segment path =>
    simp only [text, List.isEmpty_cons, Bool.false_eq_true, if_false, reduceCtorEq,
      String.toList_join, List.flatMap_map, chars]

theorem text_eq_iff {p q : Path} (hp : p.IsPlain) (hq : q.IsPlain) : p.text = q.text ↔ p = q := by
  refine ⟨fun h => ?_, fun h => h ▸ rfl⟩
  have hlist : p.text.toList = q.text.toList := by rw [h]
  -- No segments are written like the text for the value itself.
  have hroot (path : Path) : path.chars ≠ "<root>".toList := by
    intro heq
    have hends := ends_chars path
    rw [heq] at hends
    revert hends
    simp [Ends, isInner]
  rw [toList_text, toList_text] at hlist
  split_ifs at hlist with hp0 hq0 hq0
  · rw [hp0, hq0]
  · exact absurd hlist.symm (hroot q)
  · exact absurd hlist (hroot p)
  · exact eq_of_chars_eq hp hq hlist

/-- Paths without dots and opening brackets in their keys have different texts, and an issue is
found at the text of such a path just when it has that path. -/
theorem told_apart_by_text :
    (∀ p q : Path, p.IsPlain → q.IsPlain → p.text = q.text → p = q) ∧
    ∀ (report : Report) (q : Path), (∀ issue ∈ report.issues, issue.path.IsPlain) → q.IsPlain →
      (report.hasIssueAt q.text = true ↔ ∃ issue ∈ report.issues, issue.path = q) := by
  refine ⟨fun p q hp hq => (text_eq_iff hp hq).mp, fun report q hreport hq => ?_⟩
  simp only [Report.hasIssueAt, List.any_eq_true, decide_eq_true_eq]
  constructor
  · intro h
    obtain ⟨issue, hissue, htext⟩ := h
    exact ⟨issue, hissue, (text_eq_iff (hreport issue hissue) hq).mp htext⟩
  · intro h
    obtain ⟨issue, hissue, rfl⟩ := h
    exact ⟨issue, hissue, rfl⟩

/-- An issue below an empty key and a key with a closing bracket, and one of the value itself. -/
def tableReport : Report where
  issues :=
    [{ path := [.key "", .key "0]", .index 1, .index 12], code := .invalidType
       message := "expected string, got null" },
      { path := [], code := .unknownKey, message := "key is not declared" }]

theorem told_apart_by_text_table :
    (∀ issue ∈ tableReport.issues, issue.path.IsPlain) ∧
    IsPlain [.key "", .key "0]", .index 1, .index 12] ∧ IsPlain [.key "", .key "0]", .index 112] ∧
    text [.key "", .key "0]", .index 1, .index 12] ≠ text [.key "", .key "0]", .index 112] ∧
    tableReport.hasIssueAt (text [.key "", .key "0]", .index 1, .index 12]) = true ∧
    tableReport.hasIssueAt (text []) = true ∧
    ¬tableReport.hasIssueAt (text [.key "", .key "0]", .index 112]) = true := by
  have hreport : ∀ issue ∈ tableReport.issues, issue.path.IsPlain := by decide
  have hfirst : IsPlain [.key "", .key "0]", .index 1, .index 12] := by decide
  have hother : IsPlain [.key "", .key "0]", .index 112] := by decide
  obtain ⟨hpaths, hfound⟩ := told_apart_by_text
  refine ⟨hreport, hfirst, hother, fun htext => ?_, ?_, ?_, fun hissue => ?_⟩
  · exact absurd (hpaths _ _ hfirst hother htext) (by decide)
  · exact (hfound tableReport _ hreport hfirst).mpr (by decide)
  · exact (hfound tableReport [] hreport (by decide)).mpr (by decide)
  · exact absurd ((hfound tableReport _ hreport hother).mp hissue) (by decide)

/-- A dot in a key is written like the beginning of a segment. -/
example : text [.key "a.b"] = text [.key "a", .key "b"] := by decide

end Path
end RecordShape
