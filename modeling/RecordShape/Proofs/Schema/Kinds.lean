import RecordShape.Proofs.Json.Normal
import RecordShape.Schema.Reading
import RecordShape.Schema.Writing

/-!
# Kinds and their names

A kind that is kept as text is never one that is known: the text of a number has no letters but
the exponent mark, and that of a list or an object has brackets.
-/

namespace RecordShape

theorem Number.isNumeral_write (n : Number) : DecimalLayout.IsNumeral n.write := by
  cases n with
  | int n =>
    cases n with
    | ofNat n => exact DecimalLayout.isNumeral_repr n
    | negSucc n =>
      have hsign : DecimalLayout.IsNumeral "-" := by decide
      exact hsign.append (DecimalLayout.isNumeral_repr (n + 1))
  | double x =>
    have hwhole : DecimalLayout.IsNumeral DecimalLayout.json.whole := by decide
    exact DecimalLayout.isNumeral_write hwhole x

namespace TypeTag

/-- The kind is read back from its name. -/
def IsRestored (tag : TypeTag) : Prop := ofName tag.name = tag

def knownNames : List String :=
  ["object", "array", "string", "number", "integer", "boolean", "null"]

theorem ofName_of_not_mem {name : String} (h : name ∉ knownNames) : ofName name = other name := by
  simp only [knownNames, List.mem_cons, List.not_mem_nil, or_false, not_or] at h
  simp only [ofName, h, if_false]

theorem isRestored_ofName (name : String) : (ofName name).IsRestored := by
  by_cases h : name ∈ knownNames
  · simp only [knownNames, List.mem_cons, List.not_mem_nil, or_false] at h
    rcases h with rfl | rfl | rfl | rfl | rfl | rfl | rfl <;> rfl
  · rw [IsRestored, ofName_of_not_mem h, TypeTag.name, ofName_of_not_mem h]

/-- The text of a value that is neither a string nor `null` is no kind that is known. -/
theorem compact_not_mem_knownNames {j : Json} (hstring : j.string? = none)
    (hnull : j.isNull = false) : j.compact ∉ knownNames := by
  have hnames : ∀ name ∈ knownNames,
      '[' ∉ name.toList ∧ '{' ∉ name.toList ∧ ¬DecimalLayout.IsNumeral name := by decide
  intro h
  cases j with
  | null => cases hnull
  | str s => cases hstring
  | bool b => revert h; cases b <;> decide
  | num n => exact (hnames _ h).2.2 n.isNumeral_write
  | arr items =>
    refine (hnames _ h).1 ?_
    obtain ⟨rest, hrest⟩ := Json.Layout.compact.exists_toList_block "[" "]" 0 _
    exact hrest ▸ List.mem_cons_self
  | obj members =>
    refine (hnames _ h).2.1 ?_
    obtain ⟨rest, hrest⟩ := Json.Layout.compact.exists_toList_block "\x7b" "\x7d" 0 _
    exact hrest ▸ List.mem_cons_self

theorem isRestored_ofJson (j : Json) : (ofJson j).IsRestored := by
  have hother {j : Json} (hstring : j.string? = none) (hnull : j.isNull = false) :
      (other j.compact).IsRestored :=
    ofName_of_not_mem (compact_not_mem_knownNames hstring hnull)
  unfold ofJson
  cases j.normalize with
  | str s => exact isRestored_ofName s
  | null => rfl
  | _ => exact hother rfl rfl

@[simp] theorem isNormal_toJson (tag : TypeTag) : tag.toJson.IsNormal := rfl

theorem IsRestored.eq {tag : TypeTag} (h : tag.IsRestored) : ofJson tag.toJson = tag := h

end TypeTag

end RecordShape
