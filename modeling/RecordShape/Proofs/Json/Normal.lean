import RecordShape.Json.Basic
import RecordShape.Proofs.Schema.Keys

/-!
# Normal values

A value is normal if every object in it is a map by key. Values are normal once they have been
normalized, and what is written with its members in order is normal from the start.
-/

namespace RecordShape.Json

def IsNormal (j : Json) : Prop := j.normalize = j

@[simp] theorem isNormal_str (s : String) : (str s).IsNormal := rfl

@[simp] theorem isNormal_num (n : Number) : (num n).IsNormal := rfl

@[simp] theorem isNormal_bool (b : Bool) : (bool b).IsNormal := rfl

theorem normalize_arr (items : List Json) : (arr items).normalize = arr (items.map normalize) := by
  have hitems : normalizeItems items = items.map normalize := by
    induction items with
    | nil => rfl
    | cons first rest ih => rw [normalizeItems, ih, List.map_cons]
  rw [normalize, hitems]

theorem normalize_obj (members : List (String × Json)) : (obj members).normalize =
    obj (KeyMap.ofList (members.map fun member => (member.1, member.2.normalize))) := by
  have hmembers : normalizeMembers members =
      members.map fun member => (member.1, member.2.normalize) := by
    induction members with
    | nil => rfl
    | cons first rest ih => rw [normalizeMembers, ih, List.map_cons]
  rw [normalize, hmembers]

theorem isNormal_arr {items : List Json} (h : ∀ j ∈ items, j.IsNormal) : (arr items).IsNormal := by
  rw [IsNormal, normalize_arr, List.map_congr_left h, List.map_id']

theorem isNormal_obj {members : List (String × Json)} (hkeys : KeyMap.Ordered members)
    (h : ∀ member ∈ members, member.2.IsNormal) : (obj members).IsNormal := by
  have hvalues : (members.map fun member => (member.1, member.2.normalize)) = members := by
    conv_rhs => rw [← List.map_id members]
    exact List.map_congr_left fun member hmember => by rw [h member hmember, id]
  rw [IsNormal, normalize_obj, hvalues, KeyMap.ofList_of_ordered hkeys]

theorem isNormal_obj_map {α : Type} {m : KeyMap α} {write : α → Json} (hkeys : m.Ordered)
    (h : ∀ entry ∈ m, (write entry.2).IsNormal) :
    (obj (m.map fun entry => (entry.1, write entry.2))).IsNormal := by
  refine isNormal_obj (List.pairwise_map.mpr hkeys) fun member hmember => ?_
  obtain ⟨entry, hentry, rfl⟩ := List.mem_map.mp hmember
  exact h entry hentry

theorem isNormal_arr_map {α : Type} {items : List α} {write : α → Json}
    (h : ∀ a ∈ items, (write a).IsNormal) : (arr (items.map write)).IsNormal := by
  refine isNormal_arr fun j hj => ?_
  obtain ⟨a, ha, rfl⟩ := List.mem_map.mp hj
  exact h a ha

theorem isNormal_normalize (j : Json) : j.normalize.IsNormal := by
  cases j with
  | arr items =>
    rw [normalize_arr]
    exact isNormal_arr_map fun item _hitem => isNormal_normalize item
  | obj members =>
    rw [normalize_obj]
    refine isNormal_obj (KeyMap.ordered_ofList _) fun member hmember => ?_
    obtain ⟨⟨key, value⟩, _hvalue, rfl⟩ := List.mem_map.mp (KeyMap.mem_of_mem_ofList hmember)
    exact isNormal_normalize value
  | _ => rfl
termination_by sizeOf j
decreasing_by
  · exact sizeOf_element_lt _hitem
  · exact sizeOf_member_lt _hvalue

theorem isNormal_of_mem_arr {items : List Json} (h : (arr items).IsNormal) {j : Json}
    (hj : j ∈ items) : j.IsNormal := by
  rw [IsNormal, normalize_arr] at h
  rw [← arr.inj h] at hj
  obtain ⟨item, -, rfl⟩ := List.mem_map.mp hj
  exact isNormal_normalize item

theorem ordered_of_isNormal_obj {members : List (String × Json)} (h : (obj members).IsNormal) :
    KeyMap.Ordered members := by
  rw [IsNormal, normalize_obj] at h
  rw [← obj.inj h]
  exact KeyMap.ordered_ofList _

theorem isNormal_of_mem_obj {members : List (String × Json)} (h : (obj members).IsNormal)
    {key : String} {j : Json} (hj : (key, j) ∈ members) : j.IsNormal := by
  rw [IsNormal, normalize_obj] at h
  rw [← obj.inj h] at hj
  obtain ⟨member, -, heq⟩ := List.mem_map.mp (KeyMap.mem_of_mem_ofList hj)
  cases heq
  exact isNormal_normalize member.2

end RecordShape.Json
