import RecordShape.Graph.Occurrence
import RecordShape.Proofs.Schema.Overwriting
import RecordShape.Proofs.Schema.RoundTrip

/-!
# Other kinds and other relationships

Kinds may be replaced by any values at any places of a description, and relationships by any value.
The description is read as before, with other kinds at these places and other relationships, and if
it could not be read before, it fails in the same way.
-/

namespace RecordShape

/-- Values for the kinds at some places of a model. -/
abbrev Retyping := Site → Option Json

/-- The kind at a place that may be given another one. -/
def TypeTag.retype (kind : TypeTag) (j : Option Json) : TypeTag := j.elim kind .ofJson

mutual
/-- The model at a site with other kinds. -/
def Model.retype (types : Retyping) (site : Site) : Model → Model
  | ⟨kind, properties, required, items, constraints, description⟩ =>
    ⟨kind.retype (types site), Field.retypeAll types site properties, required,
      Items.retype types (site ++ [.items]) items, constraints, description⟩

def Field.retypeAll (types : Retyping) (site : Site) : List (String × Field) → List (String × Field)
  | [] => []
  | (name, f) :: rest =>
    (name, Field.retype types (site ++ [.field name]) f) :: Field.retypeAll types site rest

/-- The field at a site with other kinds. -/
def Field.retype (types : Retyping) (site : Site) : Field → Field
  | ⟨kind, constraints, items, pointer, description⟩ =>
    ⟨kind.retype (types site), constraints, Items.retype types (site ++ [.items]) items, pointer,
      description⟩

def Items.retype (types : Retyping) (site : Site) : Option Items → Option Items
  | none => none
  | some (.reference pointer) => some (.reference pointer)
  | some (.inline m) => some (.inline (Model.retype types site m))
end

namespace Json

mutual
/-- The value of a model at a site, or of its items, with other values for kinds. -/
def retypeModel (types : Retyping) (site : Site) : Json → Json
  | obj members =>
    obj (KeyMap.overwriteBy "type" (types site) (retypeModelMembers types site members))
  | j => j

def retypeModelMembers (types : Retyping) (site : Site) :
    List (String × Json) → List (String × Json)
  | [] => []
  | (key, j) :: rest =>
    (key,
      if key = "properties" then retypeFields types site j
      else if key = "items" then retypeModel types (site ++ [.items]) j
      else j) :: retypeModelMembers types site rest

def retypeFields (types : Retyping) (site : Site) : Json → Json
  | obj members => obj (retypeFieldEntries types site members)
  | j => j

def retypeFieldEntries (types : Retyping) (site : Site) :
    List (String × Json) → List (String × Json)
  | [] => []
  | (name, j) :: rest =>
    (name, retypeField types (site ++ [.field name]) j) :: retypeFieldEntries types site rest

/-- The value of a field at a site with other values for kinds. -/
def retypeField (types : Retyping) (site : Site) : Json → Json
  | obj members =>
    obj (KeyMap.overwriteBy "type" (types site) (retypeFieldMembers types site members))
  | j => j

def retypeFieldMembers (types : Retyping) (site : Site) :
    List (String × Json) → List (String × Json)
  | [] => []
  | (key, j) :: rest =>
    (key, if key = "items" then retypeModel types (site ++ [.items]) j else j) ::
      retypeFieldMembers types site rest
end

theorem retypeModelMembers_eq (types : Retyping) (site : Site) (members : List (String × Json)) :
    retypeModelMembers types site members = members.map fun e =>
      (e.1,
        if e.1 = "properties" then retypeFields types site e.2
        else if e.1 = "items" then retypeModel types (site ++ [.items]) e.2
        else e.2) := by
  induction members with
  | nil => rfl
  | cons member rest ih => rw [retypeModelMembers, ih, List.map_cons]

theorem retypeFieldMembers_eq (types : Retyping) (site : Site) (members : List (String × Json)) :
    retypeFieldMembers types site members = members.map fun e =>
      (e.1, if e.1 = "items" then retypeModel types (site ++ [.items]) e.2 else e.2) := by
  induction members with
  | nil => rfl
  | cons member rest ih => rw [retypeFieldMembers, ih, List.map_cons]

theorem retypeFieldEntries_eq (types : Retyping) (site : Site) (members : List (String × Json)) :
    retypeFieldEntries types site members = members.map fun e =>
      (e.1, retypeField types (site ++ [.field e.1]) e.2) := by
  induction members with
  | nil => rfl
  | cons member rest ih => rw [retypeFieldEntries, ih, List.map_cons]

theorem filter_retypeModel (types : Retyping) (site : Site) (members : List (String × Json))
    {p : String → Bool} (htype : p "type" = false) (hproperties : p "properties" = false)
    (hitems : p "items" = false) :
    (KeyMap.overwriteBy "type" (types site) (retypeModelMembers types site members)).filter
        (fun e => p e.1) = members.filter fun e => p e.1 := by
  rw [KeyMap.filter_overwriteBy htype, retypeModelMembers_eq]
  refine KeyMap.filter_map_values members fun e _ he => ?_
  have hp : e.1 ≠ "properties" := fun h => by simp [h, hproperties] at he
  have hi : e.1 ≠ "items" := fun h => by simp [h, hitems] at he
  rw [if_neg hp, if_neg hi]

theorem filter_retypeField (types : Retyping) (site : Site) (members : List (String × Json))
    {p : String → Bool} (htype : p "type" = false) (hitems : p "items" = false) :
    (KeyMap.overwriteBy "type" (types site) (retypeFieldMembers types site members)).filter
        (fun e => p e.1) = members.filter fun e => p e.1 := by
  rw [KeyMap.filter_overwriteBy htype, retypeFieldMembers_eq]
  refine KeyMap.filter_map_values members fun e _ he => ?_
  have hi : e.1 ≠ "items" := fun h => by simp [h, hitems] at he
  rw [if_neg hi]

/-- The models of a schema with other values for kinds, given by the names of the models. -/
def retypeModels (types : String → Retyping) : Json → Json
  | obj entries => obj (entries.map fun e => (e.1, retypeModel (types e.1) [] e.2))
  | j => j

/-- A schema value with other values for kinds and perhaps another one for the relationships. -/
def retypeSchema (types : String → Retyping) (relationships : Option Json)
    (members : List (String × Json)) : Json :=
  obj (KeyMap.overwriteBy "relationships" relationships (members.map fun e =>
    (e.1, if e.1 = "models" then retypeModels types e.2 else e.2)))

end Json

theorem Field.retypeAll_eq (types : Retyping) (site : Site) (properties : List (String × Field)) :
    retypeAll types site properties =
      properties.map fun e => (e.1, e.2.retype types (site ++ [.field e.1])) := by
  induction properties with
  | nil => rfl
  | cons p rest ih => rw [retypeAll, ih, List.map_cons]

/-- Other kinds below a place, but not at the place itself. -/
def Model.retypeParts (types : Retyping) (site : Site) (m : Model) : Model :=
  { m with
    properties := Field.retypeAll types site m.properties
    items := Items.retype types (site ++ [.items]) m.items }

def Model.withKind (j : Json) (m : Model) : Model := { m with kind := .ofJson j }

theorem Model.retype_eq (types : Retyping) (site : Site) (m : Model) :
    m.retype types site =
      (types site).elim (m.retypeParts types site) fun j =>
        (m.retypeParts types site).withKind j := by
  cases m
  rw [retype]
  cases types site <;> rfl

def Field.retypeParts (types : Retyping) (site : Site) (f : Field) : Field :=
  { f with items := Items.retype types (site ++ [.items]) f.items }

def Field.withKind (j : Json) (f : Field) : Field := { f with kind := .ofJson j }

theorem Field.retype_eq (types : Retyping) (site : Site) (f : Field) :
    f.retype types site =
      (types site).elim (f.retypeParts types site) fun j =>
        (f.retypeParts types site).withKind j := by
  cases f
  rw [retype]
  cases types site <;> rfl

theorem Model.withMember_withKind (value : Json) (m : Model) (key : String) (j : Json)
    (hkey : key ≠ "type") :
    (m.withKind value).withMember key j = (m.withMember key j).map (withKind value) := by
  unfold withMember
  rw [if_neg hkey, if_neg hkey]
  repeat' split
  all_goals
    rw [Read.map_map]
    rfl

theorem Field.withMember_withKind (value : Json) (f : Field) (key : String) (j : Json)
    (hkey : key ≠ "type") :
    (f.withKind value).withMember key j = (f.withMember key j).map (withKind value) := by
  unfold withMember
  rw [if_neg hkey, if_neg hkey]
  repeat' split
  all_goals
    rw [Read.map_map]
    rfl

/-- A value with other values for kinds is read as the same description with other kinds, whatever
it is read as. -/
structure Json.IsRetyped (j : Json) : Prop where
  model : ∀ types site, Model.ofJson (j.retypeModel types site) =
    (Model.ofJson j).map (Model.retype types site)
  field : ∀ types site, Field.ofJson (j.retypeField types site) =
    (Field.ofJson j).map (Field.retype types site)
  items : ∀ types site, optionalItems (j.retypeModel types site) =
    (optionalItems j).map (Items.retype types site)
  fields : ∀ types site, fieldTable (j.retypeFields types site) =
    (fieldTable j).map (Field.retypeAll types site)

section
variable {types : Retyping} {site : Site} {members : List (String × Json)}
  (ih : ∀ key j, (key, j) ∈ members → j.IsRetyped)

theorem Items.choose_retype (j : Json) (x : Read Model) :
    (choose j (x.map (Model.retype types site))).map some =
      ((choose j x).map some).map (Items.retype types site) := by
  unfold choose
  cases pointer? j with
  | some pointer => rfl
  | none => cases x <;> rfl

include ih

theorem Model.withMember_retypeParts (m : Model) (key : String) (j : Json)
    (hmem : (key, j) ∈ members) :
    (m.retypeParts types site).withMember key
        (if key = "properties" then j.retypeFields types site
        else if key = "items" then j.retypeModel types (site ++ [.items])
        else j) =
      (m.withMember key j).map (retypeParts types site) := by
  have hj := ih key j hmem
  by_cases hproperties : key = "properties"
  · subst hproperties
    change (fieldTable (j.retypeFields types site)).map _ = ((fieldTable j).map _).map _
    rw [hj.fields, Read.map_map, Read.map_map]
    rfl
  by_cases hitems : key = "items"
  · subst hitems
    change (optionalItems (j.retypeModel types (site ++ [.items]))).map _ =
      ((optionalItems j).map _).map _
    rw [hj.items, Read.map_map, Read.map_map]
    rfl
  rw [if_neg hproperties, if_neg hitems]
  unfold withMember
  rw [if_neg hproperties, if_neg hitems, if_neg hproperties, if_neg hitems]
  split
  · rfl
  split
  all_goals
    rw [Read.map_map]
    rfl

theorem Field.withMember_retypeParts (f : Field) (key : String) (j : Json)
    (hmem : (key, j) ∈ members) :
    (f.retypeParts types site).withMember key
        (if key = "items" then j.retypeModel types (site ++ [.items]) else j) =
      (f.withMember key j).map (retypeParts types site) := by
  have hj := ih key j hmem
  by_cases hitems : key = "items"
  · subst hitems
    change (optionalItems (j.retypeModel types (site ++ [.items]))).map _ =
      ((optionalItems j).map _).map _
    rw [hj.items, Read.map_map, Read.map_map]
    rfl
  rw [if_neg hitems]
  unfold withMember
  rw [if_neg hitems, if_neg hitems]
  split
  · rfl
  split
  all_goals
    rw [Read.map_map]
    rfl

theorem Model.readMembers_retype :
    readMembersFrom memberNames withMember {} [] (KeyMap.overwriteBy "type" (types site)
        (Json.retypeModelMembers types site members)) =
      (readMembersFrom memberNames withMember {} [] members).map (retype types site) := by
  have hparts : readMembersFrom memberNames withMember {} []
        (Json.retypeModelMembers types site members) =
      (readMembersFrom memberNames withMember {} [] members).map (retypeParts types site) := by
    rw [Json.retypeModelMembers_eq]
    exact readMembersFrom_map (withMember_retypeParts ih) {} []
  rw [readMembersFrom_overwriteBy (f := withKind) (by decide) (fun _ _ => rfl) (fun _ _ _ => rfl)
    withMember_withKind, hparts, Read.map_map]
  exact congrArg (Except.map · _) (funext fun m => (retype_eq types site m).symm)

theorem Field.readMembers_retype :
    readMembersFrom memberNames withMember {} [] (KeyMap.overwriteBy "type" (types site)
        (Json.retypeFieldMembers types site members)) =
      (readMembersFrom memberNames withMember {} [] members).map (retype types site) := by
  have hparts : readMembersFrom memberNames withMember {} []
        (Json.retypeFieldMembers types site members) =
      (readMembersFrom memberNames withMember {} [] members).map (retypeParts types site) := by
    rw [Json.retypeFieldMembers_eq]
    exact readMembersFrom_map (withMember_retypeParts ih) {} []
  rw [readMembersFrom_overwriteBy (f := withKind) (by decide) (fun _ _ => rfl) (fun _ _ _ => rfl)
    withMember_withKind, hparts, Read.map_map]
  exact congrArg (Except.map · _) (funext fun m => (retype_eq types site m).symm)

theorem Model.ofJson_retype : ofJson ((Json.obj members).retypeModel types site) =
    (ofJson (.obj members)).map (retype types site) := by
  have hconstraints : readMembersFrom Constraints.names Constraints.withMember {} []
        (KeyMap.overwriteBy "type" (types site) (Json.retypeModelMembers types site members)) =
      readMembersFrom Constraints.names Constraints.withMember {} [] members :=
    readMembersFrom_congr (Json.filter_retypeModel types site members
      (p := fun k => decide (k ∈ Constraints.names)) (by decide) (by decide) (by decide)) _ []
  rw [Json.retypeModel, ofJson_obj, ofJson_obj, readMembers_retype ih, hconstraints]
  refine Read.both_map fun rest c => ?_
  cases rest
  rfl

theorem Field.ofJson_retype : ofJson ((Json.obj members).retypeField types site) =
    (ofJson (.obj members)).map (retype types site) := by
  have hconstraints : readMembersFrom Constraints.names Constraints.withMember {} []
        (KeyMap.overwriteBy "type" (types site) (Json.retypeFieldMembers types site members)) =
      readMembersFrom Constraints.names Constraints.withMember {} [] members :=
    readMembersFrom_congr (Json.filter_retypeField types site members
      (p := fun k => decide (k ∈ Constraints.names)) (by decide) (by decide)) _ []
  rw [Json.retypeField, ofJson_obj, ofJson_obj, readMembers_retype ih, hconstraints]
  refine Read.both_map fun rest c => ?_
  cases rest
  rfl

theorem Items.optional_retype : optionalItems ((Json.obj members).retypeModel types site) =
    (optionalItems (.obj members)).map (retype types site) := by
  have hpointer : pointer? ((Json.obj members).retypeModel types site) =
      pointer? (.obj members) := by
    have hfilter := Json.filter_retypeModel types site members
      (p := fun k => decide (k = "$ref")) (by decide) (by decide) (by decide)
    rw [Json.retypeModel, pointer?, pointer?, hfilter]
  have hread (j : Json) (hj : j ≠ .null) :
      optionalItems j = (choose j (Model.ofJson j)).map some := by
    rw [optionalItems_eq, Read.optional_eq hj]
    rfl
  have hchoose (x : Read Model) : choose ((Json.obj members).retypeModel types site) x =
      choose (.obj members) x := by
    unfold choose
    rw [hpointer]
  have hnull : (Json.obj members).retypeModel types site ≠ .null := by
    rw [Json.retypeModel]
    exact fun h => Json.noConfusion h
  rw [hread _ hnull, hread _ fun h => Json.noConfusion h, hchoose, Model.ofJson_retype ih,
    choose_retype]

theorem Field.table_retype : fieldTable ((Json.obj members).retypeFields types site) =
    (fieldTable (.obj members)).map (retypeAll types site) := by
  have hall : retypeAll types site = fun fields : KeyMap Field =>
      fields.map fun e => (e.1, e.2.retype types (site ++ [.field e.1])) :=
    funext (retypeAll_eq types site)
  rw [Json.retypeFields, Json.retypeFieldEntries_eq, fieldTable, fieldTable, fieldEntries_eq,
    fieldEntries_eq, hall]
  exact readEntriesFrom_map_values (f := fun name => retype types (site ++ [.field name]))
    (g := fun name => Json.retypeField types (site ++ [.field name]))
    (fun name j hmem => (ih name j hmem).field types _) []

end

/-- Every value is read with other kinds as it is read without. -/
theorem Json.isRetyped (j : Json) : j.IsRetyped := by
  cases j with
  | obj members =>
    -- Items and tables of fields are read from the members, so they are smaller.
    have ih : ∀ key j, (key, j) ∈ members → j.IsRetyped := fun _key j _hmem => isRetyped j
    exact ⟨fun _ _ => Model.ofJson_retype ih, fun _ _ => Field.ofJson_retype ih,
      fun _ _ => Items.optional_retype ih, fun _ _ => Field.table_retype ih⟩
  | arr items =>
    refine ⟨fun _ _ => rfl, fun _ _ => rfl, fun types site => ?_, fun _ _ => rfl⟩
    exact Items.choose_retype (.arr items) (Read.mismatch "struct ModelDescriptor" (.arr items))
  | _ => exact ⟨fun _ _ => rfl, fun _ _ => rfl, fun _ _ => rfl, fun _ _ => rfl⟩
termination_by sizeOf j
decreasing_by exact sizeOf_member_lt _hmem

namespace Schema

/-- Other kinds in all models, given by their names. -/
def retypeModels (types : String → Retyping) (s : Schema) : Schema :=
  { s with models := s.models.map fun e => (e.1, e.2.retype (types e.1) []) }

def withRelationships (j : Json) (s : Schema) : Schema :=
  { s with relationships := relationshipsOf j }

/-- The schema with other kinds and perhaps other relationships. -/
def retype (types : String → Retyping) (relationships : Option Json) (s : Schema) : Schema :=
  relationships.elim (s.retypeModels types) fun j => (s.retypeModels types).withRelationships j

theorem withMember_retypeModels (types : String → Retyping) (s : Schema) (key : String) (j : Json) :
    (s.retypeModels types).withMember key
        (if key = "models" then Json.retypeModels types j else j) =
      (s.withMember key j).map (retypeModels types) := by
  by_cases hmodels : key = "models"
  · subst hmodels
    cases j with
    | obj entries =>
      have hentries : readEntriesFrom Model.ofJson []
            (entries.map fun e => (e.1, Json.retypeModel (types e.1) [] e.2)) =
          (readEntriesFrom Model.ofJson [] entries).map fun models =>
            models.map fun e => (e.1, e.2.retype (types e.1) []) :=
        readEntriesFrom_map_values (f := fun name => Model.retype (types name) [])
          (g := fun name => Json.retypeModel (types name) [])
          (fun name j _ => j.isRetyped.model (types name) []) []
      change (modelEntries [] (entries.map _)).map _ = ((modelEntries [] entries).map _).map _
      rw [modelEntries_eq, modelEntries_eq, hentries, Read.map_map, Read.map_map]
      rfl
    | _ => rfl
  · rw [if_neg hmodels]
    unfold withMember
    rw [if_neg hmodels, if_neg hmodels]
    split <;> rfl

theorem withMember_withRelationships (value : Json) (s : Schema) (key : String) (j : Json)
    (hkey : key ≠ "relationships") :
    (s.withRelationships value).withMember key j =
      (s.withMember key j).map (withRelationships value) := by
  unfold withMember
  rw [if_neg hkey, if_neg hkey]
  split
  · cases j with
    | obj entries =>
      dsimp only
      rw [Read.map_map]
      rfl
    | _ => rfl
  · rfl

theorem ofJson_retype (types : String → Retyping) (relationships : Option Json)
    (members : List (String × Json)) :
    ofJson (Json.retypeSchema types relationships members) =
      (ofJson (.obj members)).map (retype types relationships) := by
  have hread (members : List (String × Json)) : ofJson (.obj members) =
      readMembersFrom ["models", "relationships"] withMember {} [] members := rfl
  have hmodels : readMembersFrom ["models", "relationships"] withMember {} [] (members.map fun e =>
        (e.1, if e.1 = "models" then Json.retypeModels types e.2 else e.2)) =
      (readMembersFrom ["models", "relationships"] withMember {} [] members).map
        (retypeModels types) :=
    readMembersFrom_map (fun s key j _ => withMember_retypeModels types s key j) {} []
  rw [Json.retypeSchema, hread, hread, readMembersFrom_overwriteBy (f := withRelationships)
    (by decide) (fun _ _ => rfl) (fun _ _ _ => rfl) withMember_withRelationships, hmodels,
    Read.map_map]
  rfl

/-- Whatever values stand for the kinds and for the relationships of a schema, it is read with other
kinds at these places and other relationships, or fails as before. A kind that is no text is kept
as written, and so are the relationships that can be read; none of them makes reading fail. -/
theorem ofValue_retype (types : String → Retyping) (relationships : Option Json)
    (members : List (String × Json)) :
    ofValue (Json.retypeSchema types relationships members) =
        (ofValue (.obj members)).map (retype types relationships) ∧
      (∀ j, TypeTag.ofJson j = match j with
        | .str name => .ofName name
        | .null => .other ""
        | j => .other j.normalize.compact) ∧
      ∀ j, relationshipsOf j = match j with
        | .arr entries => entries.filterMap fun entry =>
            (Relationship.ofJson entry.normalize).toOption
        | _ => [] := by
  refine ⟨?_, fun j => ?_, fun j => ?_⟩
  · unfold ofValue
    rw [ofJson_retype]
    cases ofJson (.obj members) <;> rfl
  · cases j <;> rfl
  · cases j with
    | arr entries =>
      rw [relationshipsOf, Json.normalize_arr]
      simp only [List.filterMap_map]
      rfl
    | _ => rfl

example : ofValue (Json.retypeSchema
      (fun _ site => if site = [.field "tags", .items] then some (.arr []) else none) (some .null)
      [("models", .obj [("Note", .obj [("properties", .obj [("tags", .obj [
        ("items", .obj [("maxLength", .ofNat 8)]), ("type", .str "array")])])])])]) =
    .ok { models := [("Note", { properties := [("tags", { kind := .array, items := some (.inline {
      kind := .other "[]", constraints := { maxLength := some 8 } }) })] })] } := rfl

end Schema

end RecordShape
