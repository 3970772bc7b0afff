import Mathlib.Data.List.Basic

/-!
# Where texts come apart

A text is cut at the last place of a character, or where a stretch of characters of one class ends.
Both say where the cut is, so that a text can be cut in one way only.
-/

namespace RecordShape

theorem exists_last_cut {c : Char} {s : List Char} (h : c ∈ s) :
    ∃ before after, s = before ++ c :: after ∧ c ∉ after := by
  -- The last place is the first one from the end.
  obtain ⟨after, before, hreverse, hafter⟩ := List.eq_append_cons_of_mem (List.mem_reverse.mpr h)
  refine ⟨before.reverse, after.reverse, ?_, fun hmem => hafter (List.mem_reverse.mp hmem)⟩
  rw [← List.reverse_reverse s, hreverse, List.reverse_append, List.reverse_cons,
    List.append_assoc, List.singleton_append]

theorem splitOn_last_cut {c : Char} {after : List Char} (h : c ∉ after) (before : List Char) :
    (before ++ c :: after).splitOn c = before.splitOn c ++ [after] := by
  rw [List.splitOn_append_cons_self, List.splitOn_eq_singleton h]

section
variable {p : Char → Bool} {s s' rest rest' : List Char}

/-- The first character that is not in a class ends the stretch of those that are. -/
theorem takeWhile_stretch (hs : ∀ c ∈ s, p c = true) (hrest : ∀ c ∈ rest.head?, p c = false) :
    (s ++ rest).takeWhile p = s := by
  have hnone : rest.takeWhile p = [] := by
    cases rest with
    | nil => rfl
    | cons c rest => rw [List.takeWhile_cons, hrest c rfl, if_neg Bool.false_ne_true]
  rw [List.takeWhile_append_of_pos hs, hnone, List.append_nil]

theorem dropWhile_stretch (hs : ∀ c ∈ s, p c = true) (hrest : ∀ c ∈ rest.head?, p c = false) :
    (s ++ rest).dropWhile p = rest := by
  have hcut := @List.takeWhile_append_dropWhile _ p (s ++ rest)
  rw [takeWhile_stretch hs hrest] at hcut
  exact List.append_cancel_left hcut

theorem append_inj_of_stretch (hs : ∀ c ∈ s, p c = true) (hs' : ∀ c ∈ s', p c = true)
    (hrest : ∀ c ∈ rest.head?, p c = false) (hrest' : ∀ c ∈ rest'.head?, p c = false)
    (h : s ++ rest = s' ++ rest') : s = s' ∧ rest = rest' := by
  constructor
  · rw [← takeWhile_stretch hs hrest, h, takeWhile_stretch hs' hrest']
  · rw [← dropWhile_stretch hs hrest, h, dropWhile_stretch hs' hrest']

end

end RecordShape
