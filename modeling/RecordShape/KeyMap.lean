/-!
# Maps by key

A map from strings is a list of entries in strictly increasing key order. `KeyMap.insert` keeps
the order and replaces the entry of a key that is already there, so a list built by insertion
alone is ordered, and equal maps are equal lists.
-/

namespace RecordShape

abbrev KeyMap (α : Type) := List (String × α)

namespace KeyMap
variable {α β : Type}

def insert (key : String) (value : α) : KeyMap α → KeyMap α
  | [] => [(key, value)]
  | (k, v) :: rest =>
    if key < k then (key, value) :: (k, v) :: rest
    else if key = k then (key, value) :: rest
    else (k, v) :: insert key value rest

def find? (key : String) : KeyMap α → Option α
  | [] => none
  | (k, v) :: rest => if k = key then some v else find? key rest

def keys (m : KeyMap α) : List String := m.map Prod.fst

def contains (m : KeyMap α) (key : String) : Bool := (m.find? key).isSome

/-- The map with the entries of a list; of entries with one key the last counts. -/
def ofList (entries : List (String × α)) : KeyMap α :=
  entries.foldl (fun m e => m.insert e.1 e.2) []

/-- Strictly increasing keys. -/
def Ordered (m : KeyMap α) : Prop := m.Pairwise fun a b => a.1 < b.1

theorem mem_of_find?_eq_some {key : String} {value : α} {m : KeyMap α}
    (h : find? key m = some value) : (key, value) ∈ m := by
  induction m with
  | nil => simp [find?] at h
  | cons entry rest ih =>
    obtain ⟨k, v⟩ := entry
    by_cases hk : k = key
    · simp only [find?, hk, if_true, Option.some.injEq] at h
      simp [hk, h]
    · simp only [find?, hk, if_false] at h
      exact List.mem_cons_of_mem _ (ih h)

theorem contains_iff {key : String} {m : KeyMap α} :
    contains m key = true ↔ ∃ value, (key, value) ∈ m := by
  induction m with
  | nil => simp [contains, find?]
  | cons entry rest ih =>
    obtain ⟨k, v⟩ := entry
    simp only [contains, find?] at ih ⊢
    by_cases hk : k = key
    · simp only [hk, if_true, Option.isSome_some, true_iff]
      exact ⟨v, List.mem_cons_self⟩
    · simp only [hk, if_false, ih, List.mem_cons, Prod.mk.injEq]
      simp [Ne.symm hk]

end KeyMap
end RecordShape
