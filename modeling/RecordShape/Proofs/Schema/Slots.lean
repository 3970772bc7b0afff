import RecordShape.Proofs.Json.Normal
import RecordShape.Proofs.Schema.Members
import RecordShape.Schema.Writing

/-!
# Records slot by slot

What is written of a record is a list of slots, each with a member or without. Reading the members
of the slots puts them in place, one after another; a slot that a pass over the members does not
ask for changes nothing.
-/

namespace RecordShape

namespace Json

/-- The members of the slots that have one. -/
def present (slots : List (String × Option Json)) : List (String × Json) :=
  slots.filterMap fun slot => slot.2.map (slot.1, ·)

theorem optionalMember_eq (key : String) (j : Option Json) :
    optionalMember key j = present [(key, j)] := by
  cases j <;> rfl

/-- A list is written only if it has elements. -/
def unlessEmpty {α : Type} (items : List α) (j : Json) : Option Json :=
  if items.isEmpty then none else some j

theorem listMember_eq {α : Type} (key : String) (items : List α) (write : α → Json) :
    listMember key (items.map write) =
      present [(key, unlessEmpty items (arr (items.map write)))] := by
  cases items <;> rfl

theorem flagMember_eq (key : String) (flag : Bool) :
    flagMember key flag = present [(key, if flag then some (bool true) else none)] := by
  cases flag <;> rfl

theorem present_append (slots slots' : List (String × Option Json)) :
    present (slots ++ slots') = present slots ++ present slots' := List.filterMap_append

theorem keys_present_sublist (slots : List (String × Option Json)) :
    ((present slots).map Prod.fst).Sublist (slots.map Prod.fst) := by
  induction slots with
  | nil => exact .slnil
  | cons slot rest ih =>
    obtain ⟨key, _ | j⟩ := slot
    · exact .cons _ ih
    · exact .cons_cons _ ih

theorem key_mem_of_mem_present {slots : List (String × Option Json)} {entry : String × Json}
    (h : entry ∈ present slots) : entry.1 ∈ slots.map Prod.fst :=
  (keys_present_sublist slots).subset (List.mem_map_of_mem h)

theorem isNormal_present {slots : List (String × Option Json)}
    (hkeys : (slots.map Prod.fst).Pairwise (· < ·))
    (h : ∀ slot ∈ slots, ∀ j, slot.2 = some j → j.IsNormal) : (obj (present slots)).IsNormal := by
  have hordered : KeyMap.Ordered (present slots) :=
    List.pairwise_map.mp (hkeys.sublist (keys_present_sublist slots))
  refine isNormal_obj hordered fun member hmember => ?_
  obtain ⟨slot, hslot, hpart⟩ := List.mem_filterMap.mp hmember
  obtain ⟨j, hj, rfl⟩ := Option.map_eq_some_iff.mp hpart
  exact h slot hslot j hj

end Json
open Json (present)

section
variable {α : Type} {names : List String} {put : α → String → Json → Read α}

/-- Putting the members of the slots in place, one after another, leads from one record to
another. -/
inductive Fills (names : List String) (put : α → String → Json → Read α) :
    α → List (String × Option Json) → α → Prop where
  | nil (a : α) : Fills names put a [] a
  | foreign {a b : α} {key : String} {j : Option Json} {slots : List (String × Option Json)}
    (hkey : key ∉ names) (h : Fills names put a slots b) : Fills names put a ((key, j) :: slots) b
  | absent {a b : α} {key : String} {slots : List (String × Option Json)}
    (h : Fills names put a slots b) : Fills names put a ((key, none) :: slots) b
  | placed {a c b : α} {key : String} {j : Json} {slots : List (String × Option Json)}
    (hkey : key ∈ names) (hput : put a key j = .ok c) (h : Fills names put c slots b) :
    Fills names put a ((key, some j) :: slots) b

namespace Fills
variable {a b c : α} {key : String} {slots slots' : List (String × Option Json)}

theorem append (h : Fills names put a slots b) (h' : Fills names put b slots' c) :
    Fills names put a (slots ++ slots') c := by
  induction h with
  | nil a => exact h'
  | foreign hkey _ ih => exact .foreign hkey (ih h')
  | absent _ ih => exact .absent (ih h')
  | placed hkey hput _ ih => exact .placed hkey hput (ih h')

theorem allForeign (keys : List String) (hkeys : slots.map Prod.fst = keys)
    (h : ∀ key ∈ keys, key ∉ names) : Fills names put a slots a := by
  subst hkeys
  induction slots with
  | nil => exact .nil a
  | cons slot rest ih =>
    exact .foreign (h slot.1 List.mem_cons_self)
      (ih fun key hkey => h key (List.mem_cons_of_mem _ hkey))

/-- A slot for a part that may be missing: `set` puts the part where it belongs. -/
theorem optional {β : Type} {part : Option β} {write : β → Json} (set : Option β → α)
    (hkey : key ∈ names) (hnone : set none = a)
    (hput : ∀ v ∈ part, put a key (write v) = .ok (set (some v)))
    (h : Fills names put (set part) slots b) :
    Fills names put a ((key, part.map write) :: slots) b := by
  cases part with
  | none => exact .absent (hnone ▸ h)
  | some v => exact .placed hkey (hput v rfl) h

theorem unlessEmpty {β : Type} {items : List β} {j : Json} (set : List β → α) (hkey : key ∈ names)
    (hnil : set [] = a) (hput : put a key j = .ok (set items))
    (h : Fills names put (set items) slots b) :
    Fills names put a ((key, Json.unlessEmpty items j) :: slots) b := by
  cases items with
  | nil => exact .absent (hnil ▸ h)
  | cons first rest => exact .placed hkey hput h

/-- Reading the members of the slots is putting them in place. -/
theorem read (h : Fills names put a slots b) (hkeys : (slots.map Prod.fst).Pairwise (· < ·)) :
    readMembersFrom names put a [] (present slots) = .ok b := by
  -- The slots have different keys, so none of those to come has been seen.
  suffices hseen : ∀ seen : List String, (∀ key ∈ seen, key ∉ slots.map Prod.fst) →
      readMembersFrom names put a seen (present slots) = .ok b from hseen [] nofun
  have hrest {seen : List String} {slot : String × Option Json}
      {slots : List (String × Option Json)} (h : ∀ key ∈ seen, key ∉ (slot :: slots).map Prod.fst) :
      ∀ key ∈ seen, key ∉ slots.map Prod.fst :=
    fun key hkey hmem => h key hkey (List.mem_cons_of_mem _ hmem)
  induction h with
  | nil a => exact fun seen hseen => rfl
  | @foreign a b key j slots hkey _ ih =>
    intro seen hseen
    have hlast := ih (List.pairwise_cons.mp hkeys).2 seen (hrest hseen)
    cases j with
    | none => exact hlast
    | some j =>
      change readMembersFrom names put a seen ((key, j) :: present slots) = _
      rw [readMembersFrom, if_neg hkey, hlast]
  | absent _ ih =>
    exact fun seen hseen => ih (List.pairwise_cons.mp hkeys).2 seen (hrest hseen)
  | @placed a c b key j slots hkey hput _ ih =>
    intro seen hseen
    obtain ⟨hnew, hkeys⟩ := List.pairwise_cons.mp hkeys
    have hunseen : key ∉ seen := fun hmem => hseen key hmem List.mem_cons_self
    change readMembersFrom names put a seen ((key, j) :: present slots) = _
    rw [readMembersFrom, if_pos hkey, if_neg hunseen, hput]
    refine ih hkeys (key :: seen) (fun k hk => ?_)
    rcases List.mem_cons.mp hk with rfl | hk
    · exact fun hmem => lt_irrefl k (hnew k hmem)
    · exact hrest hseen k hk

end Fills
end

namespace Constraints

def leadingSlots (c : Constraints) : List (String × Option Json) :=
  [("enum", c.values.map .arr), ("format", c.format.map .str)]

def trailingSlots (c : Constraints) : List (String × Option Json) :=
  [("maxLength", c.maxLength.map .ofNat), ("maximum", c.maximum.map fun x => .num (.double x)),
    ("minLength", c.minLength.map .ofNat), ("minimum", c.minimum.map fun x => .num (.double x)),
    ("nullable", if c.nullable then some (.bool true) else none),
    ("pattern", c.pattern.map .str)]

def leadingNames : List String := ["enum", "format"]

def trailingNames : List String :=
  ["maxLength", "maximum", "minLength", "minimum", "nullable", "pattern"]

theorem leadingMembers_eq (c : Constraints) : c.leadingMembers = present c.leadingSlots := by
  rw [leadingMembers, Json.optionalMember_eq, Json.optionalMember_eq, ← Json.present_append]
  rfl

theorem trailingMembers_eq (c : Constraints) : c.trailingMembers = present c.trailingSlots := by
  simp only [trailingMembers, Json.optionalMember_eq, Json.flagMember_eq, ← Json.present_append]
  rfl

end Constraints

theorem itemsMember_eq (items : Option Items) :
    itemsMember items = present [("items", items.map Items.toJson)] := by
  cases items <;> simp only [itemsMember] <;> rfl

theorem fieldMembersOf_eq (fields : List (String × Field)) :
    fieldMembersOf fields = fields.map fun entry => (entry.1, entry.2.toJson) := by
  induction fields with
  | nil => rw [fieldMembersOf]; rfl
  | cons entry rest ih => rw [fieldMembersOf, ih]; rfl

theorem propertiesMember_eq (fields : KeyMap Field) : propertiesMember fields =
    present [("properties", Json.unlessEmpty fields
      (.obj (fields.map fun entry => (entry.1, entry.2.toJson))))] := by
  cases fields with
  | nil => rw [propertiesMember]; rfl
  | cons entry rest => rw [propertiesMember, fieldMembersOf_eq]; rfl

namespace Field

def slots (f : Field) : List (String × Option Json) :=
  [("$ref", f.pointer.map .str)] ++ [("description", f.description.map .str)] ++
    f.constraints.leadingSlots ++ [("items", f.items.map Items.toJson)] ++
    f.constraints.trailingSlots ++ [("type", some f.kind.toJson)]

theorem toJson_eq (f : Field) : f.toJson = .obj (present f.slots) := by
  obtain ⟨kind, constraints, items, pointer, description⟩ := f
  simp only [toJson, Json.optionalMember_eq, Constraints.leadingMembers_eq, itemsMember_eq,
    Constraints.trailingMembers_eq, slots, Json.present_append]
  rfl

theorem sorted_slots (f : Field) : (f.slots.map Prod.fst).Pairwise (· < ·) := by
  change List.Pairwise (· < ·) (["$ref", "description"] ++ Constraints.leadingNames ++ ["items"] ++
    Constraints.trailingNames ++ ["type"])
  decide

end Field

namespace Model

def slots (m : Model) : List (String × Option Json) :=
  [("description", m.description.map .str)] ++ m.constraints.leadingSlots ++
    [("items", m.items.map Items.toJson)] ++ m.constraints.trailingSlots ++
    [("properties", Json.unlessEmpty m.properties
      (.obj (m.properties.map fun entry => (entry.1, entry.2.toJson))))] ++
    [("required", Json.unlessEmpty m.required (.arr (m.required.map .str)))] ++
    [("type", some m.kind.toJson)]

theorem toJson_eq (m : Model) : m.toJson = .obj (present m.slots) := by
  obtain ⟨kind, properties, required, items, constraints, description⟩ := m
  simp only [toJson, Json.optionalMember_eq, Constraints.leadingMembers_eq, itemsMember_eq,
    Constraints.trailingMembers_eq, propertiesMember_eq, Json.listMember_eq, slots,
    Json.present_append]
  rfl

theorem keys_slots (m : Model) : m.slots.map Prod.fst =
    ["description"] ++ Constraints.leadingNames ++ ["items"] ++ Constraints.trailingNames ++
      ["properties", "required", "type"] := rfl

theorem sorted_slots (m : Model) : (m.slots.map Prod.fst).Pairwise (· < ·) := by
  rw [keys_slots]
  decide

end Model

namespace Relationship

def slots (r : Relationship) : List (String × Option Json) :=
  [("field", r.field.map .str)] ++ [("from", some r.source.toJson)] ++
    [("required", if r.required then some (.bool true) else none)] ++
    [("to", some r.target.toJson)] ++ [("type", r.kind.map .str)]

theorem toJson_eq (r : Relationship) : r.toJson = .obj (present r.slots) := by
  simp only [toJson, Json.optionalMember_eq, Json.flagMember_eq, slots, Json.present_append]
  rfl

theorem sorted_slots (r : Relationship) : (r.slots.map Prod.fst).Pairwise (· < ·) := by
  change ["field", "from", "required", "to", "type"].Pairwise (· < ·)
  decide

end Relationship

namespace Schema

def slots (s : Schema) : List (String × Option Json) :=
  [("models", some (.obj (s.models.map fun entry => (entry.1, entry.2.toJson)))),
    ("relationships", Json.unlessEmpty s.relationships
      (.arr (s.relationships.map Relationship.toJson)))]

theorem toJson_eq (s : Schema) : s.toJson = .obj (present s.slots) := by
  rw [toJson, Json.listMember_eq]
  rfl

theorem sorted_slots (s : Schema) : (s.slots.map Prod.fst).Pairwise (· < ·) := by
  change ["models", "relationships"].Pairwise (· < ·)
  decide

end Schema
end RecordShape
