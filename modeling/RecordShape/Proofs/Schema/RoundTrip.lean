import RecordShape.Proofs.Schema.Kinds
import RecordShape.Proofs.Schema.Slots
import RecordShape.Schema.Form

/-!
# Schemas are read back as they were written

Reading passes over much of what it is given, and writing leaves out the parts that have their
defaults. What is kept is never changed again: a schema that was read, written and read once more
is the same schema.
-/

namespace RecordShape
open Json (present)

namespace Constraints

/-- The listed values are read back as they are. -/
def IsRestored (c : Constraints) : Prop :=
  ∀ values, c.values = some values → ∀ j ∈ values, j.IsNormal

theorem isRestored_withMember {c c' : Constraints} {key : String} {j : Json} (h : c.IsRestored)
    (hput : c.withMember key j = .ok c') : c'.IsRestored := by
  unfold withMember at hput
  split at hput
  · obtain ⟨v, -, rfl⟩ := Read.exists_of_map hput
    exact h
  split at hput
  · obtain ⟨v, hv, rfl⟩ := Read.exists_of_map hput
    rintro values rfl value hvalue
    obtain ⟨item, hitem⟩ := Read.exists_of_mem_list (Read.exists_of_optional hv) hvalue
    cases hitem
    exact Json.isNormal_normalize item
  -- No other member says which values are listed.
  repeat' split at hput
  all_goals first
    | cases hput; exact h
    | obtain ⟨v, -, rfl⟩ := Read.exists_of_map hput; exact h

theorem isNormal_leadingSlots {c : Constraints} (h : c.IsRestored) :
    ∀ slot ∈ c.leadingSlots, ∀ j, slot.2 = some j → j.IsNormal := by
  have hvalues : ∀ values, c.values = some values → (Json.arr values).IsNormal :=
    fun values hc => Json.isNormal_arr (h values hc)
  simpa [leadingSlots] using hvalues

theorem isNormal_trailingSlots (c : Constraints) :
    ∀ slot ∈ c.trailingSlots, ∀ j, slot.2 = some j → j.IsNormal := by
  simp [trailingSlots, Json.ofNat]

theorem fills_leading {c : Constraints} (h : c.IsRestored) :
    Fills names withMember {} c.leadingSlots { values := c.values, format := c.format } := by
  refine .optional (fun values => { values }) (by decide) rfl (fun values hc => ?_) <|
    .optional (fun format => { values := c.values, format }) (by decide) rfl (fun _ _ => rfl)
      (.nil _)
  have hlist : Read.list (fun item => .ok item.normalize) (.arr values) = .ok values := by
    conv_lhs => rw [← List.map_id values]
    exact Read.list_map_eq fun j hj => congrArg Except.ok (h values hc j hj)
  change Except.map _ (Except.map some (Read.list _ (.arr values))) = _
  rw [hlist]
  rfl

theorem fills_trailing (c : Constraints) :
    Fills names withMember { values := c.values, format := c.format } c.trailingSlots c := by
  have hsize (n : Nat) : Read.optional Read.size (.ofNat n) = .ok (some n) := by
    rw [Read.optional_eq (fun h => by cases h), Read.size_ofNat]
    rfl
  have hmaxLength (c : Constraints) (n : Nat) :
      c.withMember "maxLength" (.ofNat n) = .ok { c with maxLength := some n } :=
    congrArg (Except.map fun v => ({ c with maxLength := v } : Constraints)) (hsize n)
  have hminLength (c : Constraints) (n : Nat) :
      c.withMember "minLength" (.ofNat n) = .ok { c with minLength := some n } :=
    congrArg (Except.map fun v => ({ c with minLength := v } : Constraints)) (hsize n)
  have hpattern : Fills names withMember { c with pattern := none }
      [("pattern", c.pattern.map .str)] c :=
    .optional (fun pattern => { c with pattern }) (by decide) rfl (fun _ _ => rfl) (.nil _)
  refine
    .optional (fun maxLength => { values := c.values, format := c.format, maxLength })
      (by decide) rfl (fun n _ => hmaxLength _ n) <|
    .optional (fun maximum =>
      { values := c.values, format := c.format, maxLength := c.maxLength, maximum })
      (by decide) rfl (fun _ _ => rfl) <|
    .optional (fun minLength =>
      { c with minLength, minimum := none, nullable := false, pattern := none })
      (by decide) rfl (fun n _ => hminLength _ n) <|
    .optional (fun minimum => { c with minimum, nullable := false, pattern := none })
      (by decide) rfl (fun _ _ => rfl) ?_
  cases hc : c.nullable with
  | false => exact .absent (hc ▸ hpattern)
  | true => exact .placed (by decide) rfl (hc ▸ hpattern)

end Constraints

/-- The field is written as a normal value, which is read back. -/
structure Field.IsRestored (f : Field) : Prop where
  normal : f.toJson.IsNormal
  reads : ofJson f.toJson = .ok f

structure Model.IsRestored (m : Model) : Prop where
  normal : m.toJson.IsNormal
  reads : ofJson m.toJson = .ok m

structure Items.IsRestored (i : Items) : Prop where
  normal : i.toJson.IsNormal
  reads : ofJson i.toJson = .ok i

namespace Items

theorem isRestored_reference (pointer : String) : (reference pointer).IsRestored := by
  constructor
  all_goals
    rw [toJson]
    rfl

theorem isRestored_inline {m : Model} (h : m.IsRestored) : (inline m).IsRestored := by
  have hnone : pointer? m.toJson = none := by
    have hkeys : "$ref" ∉ m.slots.map Prod.fst := by
      rw [Model.keys_slots]
      decide
    have hfilter : (present m.slots).filter (·.1 = "$ref") = [] := by
      refine List.filter_eq_nil_iff.mpr fun entry hentry hkey => hkeys ?_
      exact of_decide_eq_true hkey ▸ Json.key_mem_of_mem_present hentry
    rw [Model.toJson_eq, pointer?, hfilter]
  refine ⟨?normal, ?reads⟩
  case normal =>
    rw [toJson]
    exact h.normal
  case reads =>
    rw [toJson, ofJson]
    simp only [choose, hnone, h.reads]

theorem optionalItems_toJson {i : Items} (h : i.IsRestored) :
    optionalItems i.toJson = .ok (some i) := by
  have hnull : i.toJson ≠ .null := by
    cases i with
    | reference pointer => rw [toJson]; nofun
    | inline m => rw [toJson, Model.toJson_eq]; nofun
  rw [optionalItems_eq, Read.optional_eq hnull, h.reads]
  rfl

end Items

namespace Field

/-- The parts of a field except its constraints are read back. -/
structure HasRestoredParts (f : Field) : Prop where
  kind : f.kind.IsRestored
  items : ∀ i ∈ f.items, i.IsRestored

theorem fills_parts {f : Field} (h : f.HasRestoredParts) :
    Fills memberNames withMember {} f.slots { f with constraints := {} } := by
  have hitems : ∀ i ∈ f.items, optionalItems i.toJson = .ok (some i) :=
    fun i hi => Items.optionalItems_toJson (h.items i hi)
  have htype (f' : Field) :
      f'.withMember "type" f.kind.toJson = .ok { f' with kind := f.kind } :=
    congrArg (fun kind => Except.ok ({ f' with kind } : Field)) h.kind.eq
  -- This pass takes the members in the order of the slots and leaves the constraints alone.
  simp only [slots, List.append_assoc, List.cons_append, List.nil_append]
  refine
    .optional (fun pointer => { pointer }) (by decide) rfl (fun _ _ => rfl) <|
    .optional (fun description => { pointer := f.pointer, description }) (by decide) rfl
      (fun _ _ => rfl) <|
    (Fills.allForeign Constraints.leadingNames rfl (by decide)).append <|
    .optional (fun items => { pointer := f.pointer, description := f.description, items })
      (by decide) rfl (fun i hi => congrArg (Except.map _) (hitems i hi)) <|
    (Fills.allForeign Constraints.trailingNames rfl (by decide)).append <|
    .placed (by decide) (htype _) (.nil _)

theorem fills_constraints {f : Field} (h : f.constraints.IsRestored) :
    Fills Constraints.names Constraints.withMember {} f.slots f.constraints := by
  simp only [slots, List.append_assoc, List.cons_append, List.nil_append]
  exact .foreign (by decide) <| .foreign (by decide) <|
    (Constraints.fills_leading h).append <| .foreign (by decide) <|
    (Constraints.fills_trailing f.constraints).append <| .foreign (by decide) (.nil _)

theorem isNormal_slots {f : Field} (h : f.HasRestoredParts) (hc : f.constraints.IsRestored) :
    ∀ slot ∈ f.slots, ∀ j, slot.2 = some j → j.IsNormal := by
  have hitems : ∀ i, f.items = some i → i.toJson.IsNormal := fun i hi => (h.items i hi).normal
  have hleading := Constraints.isNormal_leadingSlots hc
  have htrailing := Constraints.isNormal_trailingSlots f.constraints
  simp only [slots, List.forall_mem_append]
  exact ⟨⟨⟨⟨⟨by simp, by simp⟩, hleading⟩, by simpa using hitems⟩, htrailing⟩, by simp⟩

theorem isRestored_of_parts {f : Field} (h : f.HasRestoredParts) (hc : f.constraints.IsRestored) :
    f.IsRestored := by
  refine ⟨?normal, ?reads⟩
  case normal =>
    rw [toJson_eq]
    exact Json.isNormal_present f.sorted_slots (isNormal_slots h hc)
  case reads =>
    rw [toJson_eq, ofJson_obj_iff]
    exact ⟨{ f with constraints := {} }, f.constraints, (fills_parts h).read f.sorted_slots,
      (fills_constraints hc).read f.sorted_slots, by cases f; rfl⟩

end Field

namespace Model

structure HasRestoredParts (m : Model) : Prop where
  kind : m.kind.IsRestored
  ordered : KeyMap.Ordered m.properties
  properties : ∀ entry ∈ m.properties, entry.2.IsRestored
  items : ∀ i ∈ m.items, i.IsRestored

theorem fieldTable_map {fields : KeyMap Field} (hordered : fields.Ordered)
    (h : ∀ entry ∈ fields, entry.2.IsRestored) :
    fieldTable (.obj (fields.map fun entry => (entry.1, entry.2.toJson))) = .ok fields := by
  rw [fieldTable, fieldEntries_eq]
  exact readEntriesFrom_map hordered fun entry hentry => (h entry hentry).reads

theorem fills_parts {m : Model} (h : m.HasRestoredParts) :
    Fills memberNames withMember {} m.slots { m with constraints := {} } := by
  have hitems : ∀ i ∈ m.items, optionalItems i.toJson = .ok (some i) :=
    fun i hi => Items.optionalItems_toJson (h.items i hi)
  have hproperties := fieldTable_map h.ordered h.properties
  have hrequired : Read.list Read.text (.arr (m.required.map .str)) = .ok m.required :=
    Read.list_map_eq fun _ _ => rfl
  have htype (m' : Model) :
      m'.withMember "type" m.kind.toJson = .ok { m' with kind := m.kind } :=
    congrArg (fun kind => Except.ok ({ m' with kind } : Model)) h.kind.eq
  simp only [slots, List.append_assoc, List.cons_append, List.nil_append]
  refine
    .optional (fun description => { description }) (by decide) rfl (fun _ _ => rfl) <|
    (Fills.allForeign Constraints.leadingNames rfl (by decide)).append <|
    .optional (fun items => { description := m.description, items }) (by decide) rfl
      (fun i hi => congrArg (Except.map _) (hitems i hi)) <|
    (Fills.allForeign Constraints.trailingNames rfl (by decide)).append <|
    .unlessEmpty (fun properties => { description := m.description, items := m.items, properties })
      (by decide) rfl (congrArg (Except.map _) hproperties) <|
    .unlessEmpty (fun required =>
      { description := m.description, items := m.items, properties := m.properties, required })
      (by decide) rfl (congrArg (Except.map _) hrequired) <|
    .placed (by decide) (htype _) (.nil _)

theorem fills_constraints {m : Model} (h : m.constraints.IsRestored) :
    Fills Constraints.names Constraints.withMember {} m.slots m.constraints := by
  simp only [slots, List.append_assoc, List.cons_append, List.nil_append]
  exact .foreign (by decide) <| (Constraints.fills_leading h).append <| .foreign (by decide) <|
    (Constraints.fills_trailing m.constraints).append <|
    .foreign (by decide) <| .foreign (by decide) <| .foreign (by decide) (.nil _)

theorem isNormal_slots {m : Model} (h : m.HasRestoredParts) (hc : m.constraints.IsRestored) :
    ∀ slot ∈ m.slots, ∀ j, slot.2 = some j → j.IsNormal := by
  have hitems : ∀ i, m.items = some i → i.toJson.IsNormal := fun i hi => (h.items i hi).normal
  have hproperties : (Json.obj (m.properties.map fun e => (e.1, e.2.toJson))).IsNormal :=
    Json.isNormal_obj_map h.ordered fun e he => (h.properties e he).normal
  have hrequired : (Json.arr (m.required.map .str)).IsNormal :=
    Json.isNormal_arr_map fun name _ => Json.isNormal_str name
  have hleading := Constraints.isNormal_leadingSlots hc
  have htrailing := Constraints.isNormal_trailingSlots m.constraints
  simp only [slots, List.forall_mem_append]
  exact ⟨⟨⟨⟨⟨⟨by simp, hleading⟩, by simpa using hitems⟩, htrailing⟩,
    by simpa [Json.unlessEmpty] using fun _ => hproperties⟩,
    by simpa [Json.unlessEmpty] using fun _ => hrequired⟩, by simp⟩

theorem isRestored_of_parts {m : Model} (h : m.HasRestoredParts) (hc : m.constraints.IsRestored) :
    m.IsRestored := by
  refine ⟨?normal, ?reads⟩
  case normal =>
    rw [toJson_eq]
    exact Json.isNormal_present m.sorted_slots (isNormal_slots h hc)
  case reads =>
    rw [toJson_eq, ofJson_obj_iff]
    exact ⟨{ m with constraints := {} }, m.constraints, (fills_parts h).read m.sorted_slots,
      (fills_constraints hc).read m.sorted_slots, by cases m; rfl⟩

end Model

/-- Whatever is read from a value, be it a model, a field or a table of fields, is read back. -/
structure Json.IsReadBack (j : Json) : Prop where
  model : ∀ m, Model.ofJson j = .ok m → m.IsRestored
  field : ∀ f, Field.ofJson j = .ok f → f.IsRestored
  fields : ∀ fields : KeyMap Field, fieldTable j = .ok fields →
    fields.Ordered ∧ ∀ entry ∈ fields, entry.2.IsRestored

section
variable {j : Json} (hj : j.IsReadBack)
include hj

theorem Items.isRestored_of_ofJson {i : Items} (h : ofJson j = .ok i) : i.IsRestored := by
  unfold ofJson choose at h
  cases hpointer : pointer? j with
  | some pointer =>
    simp only [hpointer] at h
    cases h
    exact isRestored_reference pointer
  | none =>
    cases hmodel : Model.ofJson j with
    | ok m =>
      simp only [hpointer, hmodel] at h
      cases h
      exact isRestored_inline (hj.model m hmodel)
    | error e =>
      simp only [hpointer, hmodel] at h
      cases h

theorem Items.isRestored_of_optionalItems {items : Option Items} (h : optionalItems j = .ok items) :
    ∀ i ∈ items, i.IsRestored := by
  rintro i rfl
  rw [optionalItems_eq] at h
  exact isRestored_of_ofJson hj (Read.exists_of_optional h)

theorem Field.HasRestoredParts.withMember {f f' : Field} {key : String} (h : f.HasRestoredParts)
    (hput : f.withMember key j = .ok f') : f'.HasRestoredParts := by
  unfold Field.withMember at hput
  split at hput
  · cases hput
    exact ⟨TypeTag.isRestored_ofJson j, h.items⟩
  split at hput
  · obtain ⟨items, hitems, rfl⟩ := Read.exists_of_map hput
    exact ⟨h.kind, Items.isRestored_of_optionalItems hj hitems⟩
  split at hput
  all_goals
    obtain ⟨v, -, rfl⟩ := Read.exists_of_map hput
    exact ⟨h.kind, h.items⟩

theorem Model.HasRestoredParts.withMember {m m' : Model} {key : String} (h : m.HasRestoredParts)
    (hput : m.withMember key j = .ok m') : m'.HasRestoredParts := by
  unfold Model.withMember at hput
  split at hput
  · cases hput
    exact ⟨TypeTag.isRestored_ofJson j, h.ordered, h.properties, h.items⟩
  split at hput
  · obtain ⟨fields, hfields, rfl⟩ := Read.exists_of_map hput
    obtain ⟨hordered, hrestored⟩ := hj.fields fields hfields
    exact ⟨h.kind, hordered, hrestored, h.items⟩
  split at hput
  · obtain ⟨v, -, rfl⟩ := Read.exists_of_map hput
    exact ⟨h.kind, h.ordered, h.properties, h.items⟩
  split at hput
  · obtain ⟨items, hitems, rfl⟩ := Read.exists_of_map hput
    exact ⟨h.kind, h.ordered, h.properties, Items.isRestored_of_optionalItems hj hitems⟩
  · obtain ⟨v, -, rfl⟩ := Read.exists_of_map hput
    exact ⟨h.kind, h.ordered, h.properties, h.items⟩

end

section
variable {members : List (String × Json)} (ih : ∀ key j, (key, j) ∈ members → j.IsReadBack)

theorem Constraints.isRestored_of_members {c : Constraints}
    (h : readMembersFrom names withMember {} [] members = .ok c) : c.IsRestored := by
  have hstart : ({} : Constraints).IsRestored := nofun
  exact readMembersFrom_invariant hstart
    (fun _ _ _ _ _ hc hput => isRestored_withMember hc hput) h

include ih

theorem Field.isRestored_of_members {f : Field} (h : ofJson (.obj members) = .ok f) :
    f.IsRestored := by
  obtain ⟨rest, c, hrest, hc, rfl⟩ := ofJson_obj_iff.mp h
  have hstart : ({} : Field).HasRestoredParts := ⟨rfl, nofun⟩
  have hparts : rest.HasRestoredParts := readMembersFrom_invariant hstart
    (fun _ key j _ hmem hf hput => hf.withMember (ih key j hmem) hput) hrest
  exact isRestored_of_parts ⟨hparts.kind, hparts.items⟩ (Constraints.isRestored_of_members hc)

theorem Model.isRestored_of_members {m : Model} (h : ofJson (.obj members) = .ok m) :
    m.IsRestored := by
  obtain ⟨rest, c, hrest, hc, rfl⟩ := ofJson_obj_iff.mp h
  have hstart : ({} : Model).HasRestoredParts := ⟨rfl, .nil, nofun, nofun⟩
  have hparts : rest.HasRestoredParts := readMembersFrom_invariant hstart
    (fun _ key j _ hmem hm hput => hm.withMember (ih key j hmem) hput) hrest
  exact isRestored_of_parts ⟨hparts.kind, hparts.ordered, hparts.properties, hparts.items⟩
    (Constraints.isRestored_of_members hc)

end

theorem Json.isReadBack (j : Json) : j.IsReadBack := by
  cases j with
  | obj members =>
    -- Items and tables of fields are read from the members, so they are smaller.
    have ih : ∀ key j, (key, j) ∈ members → j.IsReadBack := fun _key j _hmem => isReadBack j
    refine ⟨fun m => Model.isRestored_of_members ih, fun f => Field.isRestored_of_members ih,
      fun fields h => ?_⟩
    rw [fieldTable, fieldEntries_eq] at h
    exact readEntriesFrom_invariant .nil nofun
      (fun key j f hmem => (ih key j hmem).field f) h
  | _ => exact ⟨nofun, nofun, nofun⟩
termination_by sizeOf j
decreasing_by exact sizeOf_member_lt _hmem

namespace RelationshipEnd

theorem ofJson_toJson (e : RelationshipEnd) : ofJson e.toJson = .ok e := by
  cases e with
  | model name => rfl
  | field name part => cases part <;> rfl

@[simp] theorem isNormal_toJson (e : RelationshipEnd) : e.toJson.IsNormal := by
  cases e with
  | model name => rfl
  | field name part =>
    have hkeys : ["field", "model"].Pairwise (· < ·) := by decide
    rw [toJson, Json.optionalMember_eq]
    change (Json.obj (present _ ++ present [("model", some (.str name))])).IsNormal
    rw [← Json.present_append]
    exact Json.isNormal_present hkeys (by simp)

end RelationshipEnd

namespace Relationship

theorem isNormal_toJson (r : Relationship) : r.toJson.IsNormal := by
  rw [toJson_eq]
  exact Json.isNormal_present r.sorted_slots (by simp [slots])

theorem fills_slots (r : Relationship) : Fills names withMember {} r.slots r := by
  have hsource (r' : Relationship) :
      r'.withMember "from" r.source.toJson = .ok { r' with source := r.source } :=
    congrArg (Except.map fun v => ({ r' with source := v } : Relationship)) r.source.ofJson_toJson
  have htarget (r' : Relationship) :
      r'.withMember "to" r.target.toJson = .ok { r' with target := r.target } :=
    congrArg (Except.map fun v => ({ r' with target := v } : Relationship)) r.target.ofJson_toJson
  have hlast : Fills names withMember { r with target := .model "", kind := none }
      [("to", some r.target.toJson), ("type", r.kind.map .str)] r :=
    .placed (by decide) (htarget _) <|
    .optional (fun kind => { r with kind }) (by decide) rfl (fun _ _ => rfl) (.nil _)
  refine
    .optional (fun field => { field }) (by decide) rfl (fun _ _ => rfl) <|
    .placed (by decide) (hsource _) ?_
  cases hr : r.required with
  | false => exact .absent (hr ▸ hlast)
  | true => exact .placed (by decide) rfl (hr ▸ hlast)

theorem ofJson_toJson (r : Relationship) : ofJson r.toJson = .ok r := by
  rw [toJson_eq]
  exact (fills_slots r).read r.sorted_slots

end Relationship

namespace Schema

theorem relationshipsOf_map (relationships : List Relationship) :
    relationshipsOf (.arr (relationships.map Relationship.toJson)) = relationships := by
  have hnormal : (Json.arr (relationships.map Relationship.toJson)).IsNormal :=
    Json.isNormal_arr_map fun r _ => r.isNormal_toJson
  have hread (r : Relationship) : (Relationship.ofJson r.toJson).toOption = some r := by
    rw [r.ofJson_toJson]
    rfl
  rw [relationshipsOf, hnormal]
  simp only [List.filterMap_map, Function.comp_def, hread, List.filterMap_some]

theorem isNormal_toJson {s : Schema} (hordered : s.models.Ordered)
    (h : ∀ entry ∈ s.models, entry.2.IsRestored) : s.toJson.IsNormal := by
  have hmodels : (Json.obj (s.models.map fun e => (e.1, e.2.toJson))).IsNormal :=
    Json.isNormal_obj_map hordered fun entry hentry => (h entry hentry).normal
  have hrelationships : (Json.arr (s.relationships.map Relationship.toJson)).IsNormal :=
    Json.isNormal_arr_map fun r _ => r.isNormal_toJson
  rw [toJson_eq]
  exact Json.isNormal_present s.sorted_slots
    (by simp [slots, Json.unlessEmpty, hmodels, hrelationships])

theorem ofJson_toJson {s : Schema} (hordered : s.models.Ordered)
    (h : ∀ entry ∈ s.models, entry.2.IsRestored) : ofJson s.toJson = .ok s := by
  have hmodels : modelEntries [] (s.models.map fun entry => (entry.1, entry.2.toJson)) =
      .ok s.models := by
    rw [modelEntries_eq]
    exact readEntriesFrom_map hordered fun entry hentry => (h entry hentry).reads
  have hrelationships (s' : Schema) :
      s'.withMember "relationships" (.arr (s.relationships.map Relationship.toJson)) =
        .ok { s' with relationships := s.relationships } :=
    congrArg (fun relationships => Except.ok ({ s' with relationships } : Schema))
      (relationshipsOf_map s.relationships)
  have hfills : Fills ["models", "relationships"] withMember {} s.slots s :=
    .placed (by decide) (congrArg (Except.map fun v => ({ models := v } : Schema)) hmodels) <|
    .unlessEmpty (fun relationships => { models := s.models, relationships }) (by decide) rfl
      (hrelationships _) (.nil _)
  rw [toJson_eq]
  exact hfills.read s.sorted_slots

theorem ofValue_eq_ok_iff {j : Json} {s : Schema} : ofValue j = .ok s ↔ ofJson j = .ok s := by
  unfold ofValue
  cases ofJson j with
  | error e => constructor <;> nofun
  | ok s' => simp [Except.mapError]

/-- A schema as it is written once it has been read. -/
def restate (j : Json) : Except LoadError Json := (ofValue j).map toJson

/-- A schema that was read is written as a normal value and read back from it, with nothing lost.
So writing after reading changes nothing the second time, not even an error. -/
theorem written_reads_back (j : Json) :
    (∀ s, ofValue j = .ok s → s.toJson.IsNormal ∧ ofValue s.toJson = .ok s) ∧
      (restate j >>= restate) = restate j := by
  have hback : ∀ s, ofValue j = .ok s → s.toJson.IsNormal ∧ ofValue s.toJson = .ok s := by
    intro s h
    obtain ⟨hordered, hrestored⟩ :=
      models_of_ofJson (fun j => j.isReadBack.model) (ofValue_eq_ok_iff.mp h)
    exact ⟨isNormal_toJson hordered hrestored,
      ofValue_eq_ok_iff.mpr (ofJson_toJson hordered hrestored)⟩
  refine ⟨hback, ?_⟩
  cases hj : ofValue j with
  | error e =>
    rw [restate, hj]
    rfl
  | ok s =>
    rw [restate, hj]
    change (ofValue s.toJson).map toJson = _
    rw [(hback s hj).2]

/-- A kind that is no text, items in both ways, listed values that are not in order, and one entry
that is no relationship. -/
def authorsJson : Json :=
  .obj [
    ("relationships", .arr [
      .obj [("to", .obj [("model", .str "Book"), ("field", .str "author")]),
        ("from", .str "Author"), ("required", .bool true)],
      .str "Author to Book"]),
    ("models", .obj [
      ("Author", .obj [
        ("type", .str "object"),
        ("properties", .obj [
          ("name", .obj [("type", .str "string"), ("maxLength", .ofNat 40), ("enum", .null)]),
          ("books", .obj [("type", .str "array"), ("items", .arr [.str "Book"])]),
          ("address", .obj [("type", .str "object"), ("items", .obj [("nullable", .bool true)])]),
          ("rank", .obj [("type", .arr [.ofNat 1]),
            ("enum", .arr [.obj [("b", .null), ("a", .bool false)]])])]),
        ("required", .arr [.str "name"])])])]

def authorsSchema : Schema where
  models := [("Author", {
    kind := .object
    properties := [
      ("address", {
        kind := .object
        items := some (.inline { constraints := { nullable := true } }) }),
      ("books", { kind := .array, items := some (.reference "Book") }),
      ("name", { kind := .string, constraints := { maxLength := some 40 } }),
      ("rank", {
        kind := .other "[1]"
        constraints := { values := some [.obj [("a", .bool false), ("b", .null)]] } })]
    required := ["name"] })]
  relationships := [
    { source := .model "Author", target := .field "Book" (some "author"), required := true }]

private theorem authorsJson_read : ofValue authorsJson = .ok authorsSchema := rfl

theorem written_reads_back_authors : ofValue authorsJson = .ok authorsSchema ∧
    authorsSchema.toJson.IsNormal ∧ ofValue authorsSchema.toJson = .ok authorsSchema :=
  ⟨authorsJson_read, (written_reads_back authorsJson).1 authorsSchema authorsJson_read⟩

end Schema

end RecordShape
