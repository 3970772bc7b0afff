import RecordShape.Proofs.Schema.Keys
import RecordShape.Schema.Reading

/-!
# Records member by member

Fields, models, constraints, relationships and schemas are all read by one loop, which puts one
member after another in its place. What the defaults have and every member keeps, a record that
was read has. Tables of fields and models are read by one loop too.
-/

namespace RecordShape

namespace Read
variable {α β : Type} {step : Step}

theorem of_within {a : α} {x : Read α} (h : within step x = .ok a) : x = .ok a := by
  cases x with
  | error e => cases h
  | ok b => exact h

theorem within_map (f : α → β) (x : Read α) : within step (x.map f) = (within step x).map f := by
  cases x <;> rfl

theorem map_map {γ : Type} (f : α → β) (g : β → γ) (x : Read α) :
    (x.map f).map g = x.map fun a => g (f a) := by
  cases x <;> rfl

theorem map_id (x : Read α) : (x.map fun a => a) = x := by
  cases x <;> rfl

theorem map_bind {γ : Type} (f : α → β) (x : Read α) (g : β → Read γ) :
    (x.map f >>= g) = x >>= fun a => g (f a) := by
  cases x <;> rfl

theorem exists_of_bind {x : Read α} {f : α → Read β} {b : β} (h : (x >>= f) = .ok b) :
    ∃ a, x = .ok a ∧ f a = .ok b := by
  cases x with
  | error e => cases h
  | ok a => exact ⟨a, rfl, h⟩

theorem exists_of_map {x : Read α} {f : α → β} {b : β} (h : x.map f = .ok b) :
    ∃ a, x = .ok a ∧ f a = b := by
  cases x with
  | error e => cases h
  | ok a =>
    cases h
    exact ⟨a, rfl, rfl⟩

theorem unplaced_eq_ok_iff {x : Read α} {a : α} : x.unplaced = .ok a ↔ x = .ok a := by
  cases x with
  | error e => constructor <;> (intro h; cases h)
  | ok b => exact Iff.rfl

theorem optional_eq {read : Json → Read α} {j : Json} (h : j ≠ .null) :
    optional read j = (read j).map some := by
  cases j with
  | null => exact absurd rfl h
  | _ => rfl

theorem exists_of_optional {read : Json → Read α} {j : Json} {a : α}
    (h : optional read j = .ok (some a)) : read j = .ok a := by
  cases j with
  | null => cases h
  | _ =>
    obtain ⟨b, hread, hb⟩ := exists_of_map h
    cases hb
    exact hread

theorem list_map_eq {read : Json → Read α} {write : α → Json} {items : List α}
    (h : ∀ a ∈ items, read (write a) = .ok a) : list read (.arr (items.map write)) = .ok items := by
  suffices hfrom : ∀ i, itemsFrom read i (items.map write) = .ok items from hfrom 0
  induction items with
  | nil => exact fun i => rfl
  | cons a rest ih =>
    intro i
    have hrest := ih (fun b hb => h b (List.mem_cons_of_mem _ hb)) (i + 1)
    rw [List.map_cons, itemsFrom, h a List.mem_cons_self, hrest]
    rfl

theorem exists_of_mem_list {read : Json → Read α} {j : Json} {items : List α} {a : α}
    (h : list read j = .ok items) (ha : a ∈ items) : ∃ item, read item = .ok a := by
  have hfrom (i : Nat) (elements : List Json) (items : List α)
      (h : itemsFrom read i elements = .ok items) (ha : a ∈ items) :
      ∃ item, read item = .ok a := by
    induction elements generalizing i items with
    | nil =>
      cases h
      cases ha
    | cons element rest ih =>
      obtain ⟨first, hfirst, h⟩ := exists_of_bind h
      obtain ⟨others, hothers, h⟩ := exists_of_bind h
      cases h
      rcases List.mem_cons.mp ha with rfl | ha
      · exact ⟨element, of_within hfirst⟩
      · exact ih (i + 1) others hothers ha
  cases j with
  | arr elements => exact hfrom 0 elements items h ha
  | _ => cases h

@[simp] theorem size_ofNat (n : Nat) : size (.ofNat n) = .ok n := by
  rw [Json.ofNat, size, if_pos (Int.natCast_nonneg n), Int.toNat_natCast]

/-- Two parts of a value are read one after the other, the second without the places of errors. -/
theorem both_iff {γ : Type} {x : Read α} {y : Read β} {f : α → β → γ} {c : γ} :
    (do let a ← x; let b ← y.unplaced; .ok (f a b) : Read γ) = .ok c ↔
      ∃ a b, x = .ok a ∧ y = .ok b ∧ c = f a b := by
  constructor
  · intro h
    obtain ⟨a, ha, h⟩ := exists_of_bind h
    obtain ⟨b, hb, h⟩ := exists_of_bind h
    cases h
    exact ⟨a, b, ha, unplaced_eq_ok_iff.mp hb, rfl⟩
  · rintro ⟨a, b, rfl, rfl, rfl⟩
    rfl

theorem both_map {γ : Type} {x : Read α} {y : Read β} {f : α → β → γ} {g : α → α} {g' : γ → γ}
    (h : ∀ a b, f (g a) b = g' (f a b)) :
    (do let a ← x.map g; let b ← y.unplaced; .ok (f a b) : Read γ) =
      (do let a ← x; let b ← y.unplaced; .ok (f a b) : Read γ).map g' := by
  cases x with
  | error e => rfl
  | ok a =>
    cases y with
    | error e => rfl
    | ok b => exact congrArg Except.ok (h a b)

end Read

section
variable {α : Type} {names : List String} {put : α → String → Json → Read α}

/-- What the start has and every member keeps, a record that is read has. -/
theorem readMembersFrom_invariant {P : α → Prop} {members : List (String × Json)} {a b : α}
    {seen : List String} (hstart : P a)
    (hput : ∀ a key j b, (key, j) ∈ members → P a → put a key j = .ok b → P b)
    (h : readMembersFrom names put a seen members = .ok b) : P b := by
  induction members generalizing a seen with
  | nil =>
    cases h
    exact hstart
  | cons member rest ih =>
    obtain ⟨key, j⟩ := member
    have hput' : ∀ a key j b, (key, j) ∈ rest → P a → put a key j = .ok b → P b :=
      fun a key j b hmem => hput a key j b (List.mem_cons_of_mem _ hmem)
    unfold readMembersFrom at h
    split at h
    · split at h
      · cases h
      · obtain ⟨c, hread, h⟩ := Read.exists_of_bind h
        exact ih (hput a key j c List.mem_cons_self hstart (Read.of_within hread)) hput' h
    · exact ih hstart hput' h

theorem readRecord_invariant {P : α → Prop} {type : String} {a b : α} {j : Json} (hstart : P a)
    (hput : ∀ a key j b, P a → put a key j = .ok b → P b)
    (h : readRecord type names put a j = .ok b) : P b := by
  have hlist (items : List Json) (a : α) (total i : Nat) (names : List String) (hstart : P a)
      (h : readListFrom put a total i names items = .ok b) : P b := by
    induction items generalizing a i names with
    | nil =>
      cases names <;> cases h
      all_goals exact hstart
    | cons j rest ih =>
      cases names with
      | nil => cases h
      | cons key names =>
        obtain ⟨c, hread, h⟩ := Read.exists_of_bind h
        exact ih c _ names (hput a key j c hstart (Read.of_within hread)) h
  cases j with
  | obj members => exact readMembersFrom_invariant hstart (fun a key j b _ => hput a key j b) h
  | arr items => exact hlist items a _ 0 names hstart h
  | _ => cases h

end

namespace Constraints

/-- The error of a constraint is placed at the whole field or model, so the place where the loop
puts it does not matter. -/
theorem unplaced_ofMembersFrom (c : Constraints) (seen : List String)
    (members : List (String × Json)) : (ofMembersFrom c seen members).unplaced =
      (readMembersFrom names withMember c seen members).unplaced := by
  induction members generalizing c seen with
  | nil => rfl
  | cons member rest ih =>
    obtain ⟨key, j⟩ := member
    rw [ofMembersFrom, readMembersFrom]
    split
    · split
      · rfl
      · cases hput : c.withMember key j with
        | error e => rfl
        | ok c' => exact ih c' (key :: seen)
    · exact ih c seen

end Constraints

namespace Model

/-- The names of the members of a model except its constraints. -/
def memberNames : List String := ["type", "properties", "required", "items", "description"]

def withMember (m : Model) (key : String) (j : Json) : Read Model :=
  if key = "type" then .ok { m with kind := .ofJson j }
  else if key = "properties" then (fieldTable j).map fun v => { m with properties := v }
  else if key = "required" then
    (Read.list Read.text j).map fun v => { m with required := v }
  else if key = "items" then (optionalItems j).map fun v => { m with items := v }
  else (Read.optional Read.text j).map fun v => { m with description := v }

theorem modelMembers_eq (m : Model) (seen : List String) (members : List (String × Json)) :
    modelMembers m seen members = readMembersFrom memberNames withMember m seen members := by
  induction members generalizing m seen with
  | nil => rfl
  | cons member rest ih =>
    obtain ⟨key, j⟩ := member
    rw [modelMembers, readMembersFrom]
    change (if key ∈ memberNames then _ else _) = _
    split
    · split
      · rfl
      · simp only [ih, withMember]
        split
        · rfl
        -- The other members are read inside a step to them.
        repeat' split
        all_goals rw [Read.within_map, Read.map_bind]
    · exact ih m seen

end Model

namespace Field

/-- The names of the members of a field except its constraints. -/
def memberNames : List String := ["type", "items", "$ref", "description"]

def withMember (f : Field) (key : String) (j : Json) : Read Field :=
  if key = "type" then .ok { f with kind := .ofJson j }
  else if key = "items" then (optionalItems j).map fun v => { f with items := v }
  else if key = "$ref" then
    (Read.optional Read.text j).map fun v => { f with pointer := v }
  else (Read.optional Read.text j).map fun v => { f with description := v }

theorem fieldMembers_eq (f : Field) (seen : List String) (members : List (String × Json)) :
    fieldMembers f seen members = readMembersFrom memberNames withMember f seen members := by
  induction members generalizing f seen with
  | nil => rfl
  | cons member rest ih =>
    obtain ⟨key, j⟩ := member
    rw [fieldMembers, readMembersFrom]
    change (if key ∈ memberNames then _ else _) = _
    split
    · split
      · rfl
      · simp only [ih, withMember]
        split
        · rfl
        repeat' split
        all_goals rw [Read.within_map, Read.map_bind]
    · exact ih f seen

end Field

theorem Model.ofJson_obj (members : List (String × Json)) : Model.ofJson (.obj members) = (do
    let rest ← readMembersFrom memberNames withMember {} [] members
    let c ← (readMembersFrom Constraints.names Constraints.withMember {} [] members).unplaced
    .ok { rest with constraints := c }) := by
  rw [← modelMembers_eq, ← Constraints.unplaced_ofMembersFrom]
  rfl

theorem Model.ofJson_obj_iff {members : List (String × Json)} {m : Model} :
    Model.ofJson (.obj members) = .ok m ↔ ∃ rest c,
      readMembersFrom memberNames withMember {} [] members = .ok rest ∧
      readMembersFrom Constraints.names Constraints.withMember {} [] members = .ok c ∧
      m = { rest with constraints := c } := by
  rw [ofJson_obj]
  exact Read.both_iff

theorem Field.ofJson_obj (members : List (String × Json)) : Field.ofJson (.obj members) = (do
    let rest ← readMembersFrom memberNames withMember {} [] members
    let c ← (readMembersFrom Constraints.names Constraints.withMember {} [] members).unplaced
    .ok { rest with constraints := c }) := by
  rw [← fieldMembers_eq, ← Constraints.unplaced_ofMembersFrom]
  rfl

theorem Field.ofJson_obj_iff {members : List (String × Json)} {f : Field} :
    Field.ofJson (.obj members) = .ok f ↔ ∃ rest c,
      readMembersFrom memberNames withMember {} [] members = .ok rest ∧
      readMembersFrom Constraints.names Constraints.withMember {} [] members = .ok c ∧
      f = { rest with constraints := c } := by
  rw [ofJson_obj]
  exact Read.both_iff

theorem optionalItems_eq (j : Json) : optionalItems j = Read.optional Items.ofJson j := by
  cases j with
  | obj members =>
    rw [optionalItems, Read.optional_eq (fun h => by cases h), Items.ofJson, Model.ofJson]
    rfl
  | _ => rfl

/-- Reads a map, in which the last entry of a key counts. -/
def readEntriesFrom {α : Type} (read : Json → Read α) (m : KeyMap α) :
    List (String × Json) → Read (KeyMap α)
  | [] => .ok m
  | (key, j) :: rest => do
    let a ← Read.within (.key key) (read j)
    readEntriesFrom read (m.insert key a) rest

theorem fieldEntries_eq (fields : KeyMap Field) (members : List (String × Json)) :
    fieldEntries fields members = readEntriesFrom Field.ofJson fields members := by
  induction members generalizing fields with
  | nil => rfl
  | cons member rest ih =>
    rw [fieldEntries, readEntriesFrom]
    simp only [ih]

theorem Schema.modelEntries_eq (models : KeyMap Model) (members : List (String × Json)) :
    modelEntries models members = readEntriesFrom Model.ofJson models members := by
  induction members generalizing models with
  | nil => rfl
  | cons member rest ih =>
    rw [modelEntries, readEntriesFrom]
    simp only [ih]

section
variable {α : Type} {read : Json → Read α} {m m' : KeyMap α} {members : List (String × Json)}

theorem readEntriesFrom_invariant {P : α → Prop} (hordered : m.Ordered) (hm : ∀ e ∈ m, P e.2)
    (hread : ∀ key j a, (key, j) ∈ members → read j = .ok a → P a)
    (h : readEntriesFrom read m members = .ok m') : m'.Ordered ∧ ∀ e ∈ m', P e.2 := by
  induction members generalizing m with
  | nil =>
    cases h
    exact ⟨hordered, hm⟩
  | cons member rest ih =>
    obtain ⟨key, j⟩ := member
    obtain ⟨a, ha, h⟩ := Read.exists_of_bind h
    have hnew : P a := hread key j a List.mem_cons_self (Read.of_within ha)
    refine ih (KeyMap.ordered_insert hordered) (fun e he => ?_)
      (fun key j a hmem => hread key j a (List.mem_cons_of_mem _ hmem)) h
    rcases KeyMap.eq_or_mem_of_mem_insert he with rfl | he
    · exact hnew
    · exact hm e he

theorem readEntriesFrom_map {write : α → Json} (hordered : KeyMap.Ordered (m ++ m'))
    (h : ∀ e ∈ m', read (write e.2) = .ok e.2) :
    readEntriesFrom read m (m'.map fun e => (e.1, write e.2)) = .ok (m ++ m') := by
  induction m' generalizing m with
  | nil => exact congrArg Except.ok (List.append_nil m).symm
  | cons entry rest ih =>
    rw [List.map_cons, readEntriesFrom, h entry List.mem_cons_self]
    change readEntriesFrom read (m.insert entry.1 entry.2) _ = _
    rw [KeyMap.insert_of_gt (KeyMap.lt_of_ordered_append hordered), ih, List.append_assoc,
      List.singleton_append]
    · rwa [List.append_assoc, List.singleton_append]
    · exact fun e he => h e (List.mem_cons_of_mem _ he)

end

namespace Schema

/-- A schema that is read has its models in order, each under a name of its own, and what every
model that is read has, all models of the schema have. -/
theorem models_of_ofJson {P : Model → Prop} {j : Json} {s : Schema}
    (hread : ∀ j m, Model.ofJson j = .ok m → P m) (h : ofJson j = .ok s) :
    s.models.Ordered ∧ ∀ entry ∈ s.models, P entry.2 := by
  have hstart : ({} : Schema).models.Ordered ∧ ∀ entry ∈ ({} : Schema).models, P entry.2 :=
    ⟨.nil, nofun⟩
  refine readRecord_invariant (P := fun s : Schema =>
    s.models.Ordered ∧ ∀ entry ∈ s.models, P entry.2) hstart (fun s key j s' hs hput => ?_) h
  unfold withMember at hput
  split at hput
  · cases j with
    | obj members =>
      obtain ⟨models, hmodels, rfl⟩ := Read.exists_of_map hput
      rw [modelEntries_eq] at hmodels
      exact readEntriesFrom_invariant .nil nofun (fun _ j m _ => hread j m) hmodels
    | _ => cases hput
  · split at hput
    all_goals
      cases hput
      exact hs

end Schema
end RecordShape
