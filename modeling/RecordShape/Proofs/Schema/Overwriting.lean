import RecordShape.Proofs.Schema.Members

/-!
# Records with a member overwritten

A member that any value can be read for is overwritten in an object: what is read is the same
record with that part overwritten, and where reading fails it fails as before. Where the member is
not one of the record, nothing happens at all.
-/

namespace RecordShape

namespace KeyMap
variable {α : Type} {key : String} {value : α}

/-- Gives every entry of the key the value, or adds such an entry at its place in the order. -/
def overwrite (key : String) (value : α) (m : KeyMap α) : KeyMap α :=
  if m.contains key then m.map fun e => (e.1, if e.1 = key then value else e.2)
  else m.insert key value

/-- Overwrites the entries of the key if there is a value for them. -/
def overwriteBy (key : String) (value : Option α) (m : KeyMap α) : KeyMap α :=
  value.elim m fun value => m.overwrite key value

theorem map_of_ne {m : KeyMap α} (h : ∀ e ∈ m, e.1 ≠ key) :
    (m.map fun e => (e.1, if e.1 = key then value else e.2)) = m := by
  conv_rhs => rw [← List.map_id m]
  refine List.map_congr_left fun e he => ?_
  rw [if_neg (h e he), id]

theorem exists_insert (m : KeyMap α) (h : m.contains key = false) (value : α) :
    ∃ before after, m = before ++ after ∧ m.insert key value = before ++ (key, value) :: after ∧
      ∀ e ∈ m, e.1 ≠ key := by
  induction m with
  | nil => exact ⟨[], [], rfl, rfl, nofun⟩
  | cons first rest ih =>
    obtain ⟨k, v⟩ := first
    have hk : k ≠ key := by
      rintro rfl
      simp [contains, find?] at h
    have hrest : contains rest key = false := by simpa [contains, find?, hk] using h
    obtain ⟨before, after, hm, hinsert, hne⟩ := ih hrest
    have hall : ∀ e ∈ (k, v) :: rest, e.1 ≠ key := by
      intro e he
      rcases List.mem_cons.mp he with rfl | he
      · exact hk
      · exact hne e he
    by_cases hlt : key < k
    · refine ⟨[], (k, v) :: rest, rfl, ?_, hall⟩
      rw [insert, if_pos hlt]
      rfl
    · refine ⟨(k, v) :: before, after, by rw [hm]; rfl, ?_, hall⟩
      rw [insert, if_neg hlt, if_neg (Ne.symm hk), hinsert]
      rfl

theorem exists_overwrite (m : KeyMap α) (key : String) (value : α) :
    ∃ before rest rest', m = before ++ rest ∧
      m.overwrite key value = before ++ (key, value) :: rest' ∧ (∀ e ∈ before, e.1 ≠ key) ∧
      (rest' = rest ∧ (∀ e ∈ rest, e.1 ≠ key) ∨ ∃ v tail, rest = (key, v) :: tail ∧
        rest' = tail.map fun e => (e.1, if e.1 = key then value else e.2)) := by
  unfold overwrite
  cases hcontains : m.contains key with
  | false =>
    obtain ⟨before, after, hm, hinsert, hne⟩ := exists_insert m hcontains value
    refine ⟨before, after, after, hm, hinsert, ?_, .inl ⟨rfl, ?_⟩⟩
    · exact fun e he => hne e (by rw [hm]; exact List.mem_append_left _ he)
    · exact fun e he => hne e (by rw [hm]; exact List.mem_append_right _ he)
  | true =>
    rw [if_pos rfl]
    induction m with
    | nil => cases hcontains
    | cons first rest ih =>
      obtain ⟨k, v⟩ := first
      by_cases hk : k = key
      · refine ⟨[], (k, v) :: rest, _, rfl, ?_, nofun, .inr ⟨v, rest, by rw [hk], rfl⟩⟩
        rw [List.map_cons, if_pos hk, hk]
        rfl
      · have hrest : contains rest key = true := by simpa [contains, find?, hk] using hcontains
        obtain ⟨before, after, after', hm, hmap, hne, hafter⟩ := ih hrest
        refine ⟨(k, v) :: before, after, after', by rw [hm]; rfl, ?_, ?_, hafter⟩
        · rw [List.map_cons, hmap, if_neg hk]
          rfl
        · intro e he
          rcases List.mem_cons.mp he with rfl | he
          · exact hk
          · exact hne e he

theorem filter_map_values {p : String → Bool} {g : String × α → α} (m : KeyMap α)
    (h : ∀ e ∈ m, p e.1 = true → g e = e.2) :
    (m.map fun e => (e.1, g e)).filter (fun e => p e.1) = m.filter fun e => p e.1 := by
  induction m with
  | nil => rfl
  | cons first rest ih =>
    have hrest := ih fun e he => h e (List.mem_cons_of_mem _ he)
    rw [List.map_cons, List.filter_cons, List.filter_cons, hrest]
    split
    · rename_i hp
      rw [h first List.mem_cons_self hp]
    · rfl

theorem filter_overwrite {p : String → Bool} (h : p key = false) (m : KeyMap α) :
    (m.overwrite key value).filter (fun e => p e.1) = m.filter fun e => p e.1 := by
  obtain ⟨before, rest, rest', hm, hoverwrite, -, hrest⟩ := m.exists_overwrite key value
  rw [hoverwrite, hm, List.filter_append, List.filter_append, List.filter_cons, h]
  rcases hrest with ⟨rfl, -⟩ | ⟨v, tail, rfl, rfl⟩
  · rfl
  · rw [List.filter_cons, h]
    have htail := filter_map_values (p := p) (g := fun e => if e.1 = key then value else e.2) tail
      fun e _ hp => if_neg fun heq => by rw [heq, h] at hp; cases hp
    simpa using htail

theorem filter_overwriteBy {p : String → Bool} (h : p key = false) (value : Option α)
    (m : KeyMap α) :
    (m.overwriteBy key value).filter (fun e => p e.1) = m.filter fun e => p e.1 := by
  cases value with
  | none => rfl
  | some value => exact filter_overwrite h m

end KeyMap

section
variable {α : Type} {names : List String} {put : α → String → Json → Read α}

theorem readMembersFrom_filter (a : α) (seen : List String) (members : List (String × Json)) :
    readMembersFrom names put a seen (members.filter fun e => decide (e.1 ∈ names)) =
      readMembersFrom names put a seen members := by
  induction members generalizing a seen with
  | nil => rfl
  | cons member rest ih =>
    obtain ⟨k, j⟩ := member
    by_cases hk : k ∈ names
    · rw [List.filter_cons, if_pos (decide_eq_true hk), readMembersFrom, readMembersFrom,
        if_pos hk, if_pos hk]
      simp only [ih]
    · rw [List.filter_cons, if_neg (by simp [hk]), ih, readMembersFrom, if_neg hk]

theorem readMembersFrom_congr {members members' : List (String × Json)}
    (h : (members.filter fun e => decide (e.1 ∈ names)) =
      members'.filter fun e => decide (e.1 ∈ names)) (a : α) (seen : List String) :
    readMembersFrom names put a seen members = readMembersFrom names put a seen members' := by
  rw [← readMembersFrom_filter, h, readMembersFrom_filter]

theorem readMembersFrom_map {f : α → α} {g : String → Json → Json} {members : List (String × Json)}
    (h : ∀ a k j, (k, j) ∈ members → put (f a) k (g k j) = (put a k j).map f) (a : α)
    (seen : List String) :
    readMembersFrom names put (f a) seen (members.map fun e => (e.1, g e.1 e.2)) =
      (readMembersFrom names put a seen members).map f := by
  induction members generalizing a seen with
  | nil => rfl
  | cons member rest ih =>
    obtain ⟨k, j⟩ := member
    have hrest := ih fun a k j hmem => h a k j (List.mem_cons_of_mem _ hmem)
    rw [List.map_cons, readMembersFrom, readMembersFrom]
    split
    · split
      · rfl
      · rw [h a k j List.mem_cons_self]
        cases put a k j with
        | error e => rfl
        | ok b => exact hrest b (k :: seen)
    · exact hrest a seen

section
variable {key : String} {value : Json} {f : α → α}

private theorem readMembersFrom_after {seen seen' : List String} {members : List (String × Json)}
    (hkeep : ∀ a k j, k ≠ key → put (f a) k j = (put a k j).map f) (hseen' : key ∈ seen')
    (hsame : ∀ k, k ≠ key → (k ∈ seen' ↔ k ∈ seen))
    (hseen : key ∈ seen ∨ ∀ e ∈ members, e.1 ≠ key) (a : α) :
    readMembersFrom names put (f a) seen'
        (members.map fun e => (e.1, if e.1 = key then value else e.2)) =
      (readMembersFrom names put a seen members).map f := by
  -- The names read so far differ in the overwritten one only, and that one does not come again or
  -- is refused by both runs.
  induction members generalizing a seen seen' with
  | nil => rfl
  | cons member rest ih =>
    obtain ⟨k, j⟩ := member
    have hrest : key ∈ seen ∨ ∀ e ∈ rest, e.1 ≠ key :=
      hseen.imp_right fun h e he => h e (List.mem_cons_of_mem _ he)
    rw [List.map_cons, readMembersFrom, readMembersFrom]
    dsimp only
    by_cases hnames : k ∈ names
    · rw [if_pos hnames, if_pos hnames]
      by_cases hk : k = key
      · have hagain : key ∈ seen := hseen.resolve_right fun h => h _ List.mem_cons_self hk
        rw [hk, if_pos hseen', if_pos hagain]
        rfl
      · rw [if_neg hk, hkeep a k j hk]
        by_cases hmem : k ∈ seen
        · rw [if_pos hmem, if_pos ((hsame k hk).mpr hmem)]
          rfl
        · rw [if_neg hmem, if_neg fun h => hmem ((hsame k hk).mp h)]
          cases put a k j with
          | error e => rfl
          | ok b =>
            refine ih (List.mem_cons_of_mem _ hseen') (fun k' hk' => ?_)
              (hrest.imp_left (List.mem_cons_of_mem _)) b
            rw [List.mem_cons, List.mem_cons, hsame k' hk']
    · rw [if_neg hnames, if_neg hnames]
      exact ih hseen' hsame hrest a

private theorem readMembersFrom_before {before rest rest' : List (String × Json)}
    (hbefore : ∀ e ∈ before, e.1 ≠ key)
    (h : ∀ a seen, key ∉ seen →
      readMembersFrom names put a seen rest' = (readMembersFrom names put a seen rest).map f)
    (a : α) {seen : List String} (hseen : key ∉ seen) :
    readMembersFrom names put a seen (before ++ rest') =
      (readMembersFrom names put a seen (before ++ rest)).map f := by
  induction before generalizing a seen with
  | nil => exact h a seen hseen
  | cons member tail ih =>
    obtain ⟨k, j⟩ := member
    have hk : k ≠ key := hbefore _ List.mem_cons_self
    have htail := ih fun e he => hbefore e (List.mem_cons_of_mem _ he)
    rw [List.cons_append, List.cons_append, readMembersFrom, readMembersFrom]
    split
    · split
      · rfl
      · cases put a k j with
        | error e => rfl
        | ok b => exact htail b (fun hmem => (List.mem_cons.mp hmem).elim (Ne.symm hk) hseen)
    · exact htail a hseen

end

/-- Where any value can be put in the place of a member, overwriting the member overwrites its part
of the record. -/
theorem readMembersFrom_overwriteBy {key : String} {f : Json → α → α} (hkey : key ∈ names)
    (hput : ∀ a j, put a key j = .ok (f j a)) (hlast : ∀ a j j', f j' (f j a) = f j' a)
    (hkeep : ∀ value a k j, k ≠ key → put (f value a) k j = (put a k j).map (f value)) (a : α)
    (value : Option Json) (members : List (String × Json)) :
    readMembersFrom names put a [] (KeyMap.overwriteBy key value members) =
      (readMembersFrom names put a [] members).map fun a => value.elim a fun j => f j a := by
  cases value with
  | none => exact (Read.map_id _).symm
  | some value =>
    rw [KeyMap.overwriteBy, Option.elim]
    obtain ⟨before, rest, rest', hm, hoverwrite, hbefore, hrest⟩ :=
      KeyMap.exists_overwrite members key value
    rw [hoverwrite, hm]
    refine readMembersFrom_before hbefore (fun a seen hseen => ?_) a List.not_mem_nil
    have hsame : ∀ k, k ≠ key → (k ∈ key :: seen ↔ k ∈ seen) := fun k hk => by
      rw [List.mem_cons, or_iff_right hk]
    rw [readMembersFrom, if_pos hkey, if_neg hseen, hput]
    change readMembersFrom names put (f value a) (key :: seen) rest' = _
    rcases hrest with ⟨rfl, hnone⟩ | ⟨j, tail, rfl, rfl⟩
    · have hafter : readMembersFrom names put (f value a) (key :: seen)
            (rest'.map fun e => (e.1, if e.1 = key then value else e.2)) =
          (readMembersFrom names put a seen rest').map (f value) :=
        readMembersFrom_after (hkeep value) List.mem_cons_self hsame (.inr hnone) a
      rwa [KeyMap.map_of_ne hnone] at hafter
    · rw [readMembersFrom, if_pos hkey, if_neg hseen, hput, ← hlast a j value]
      exact readMembersFrom_after (hkeep value) List.mem_cons_self (fun _ _ => Iff.rfl)
        (.inl List.mem_cons_self) (f j a)

end

theorem readEntriesFrom_map_values {α : Type} {read : Json → Read α} {f : String → α → α}
    {g : String → Json → Json} {members : List (String × Json)}
    (h : ∀ k j, (k, j) ∈ members → read (g k j) = (read j).map (f k)) (m : KeyMap α) :
    readEntriesFrom read (m.map fun e => (e.1, f e.1 e.2))
        (members.map fun e => (e.1, g e.1 e.2)) =
      (readEntriesFrom read m members).map fun m => m.map fun e => (e.1, f e.1 e.2) := by
  induction members generalizing m with
  | nil => rfl
  | cons member rest ih =>
    obtain ⟨k, j⟩ := member
    have hrest := ih fun k j hmem => h k j (List.mem_cons_of_mem _ hmem)
    rw [List.map_cons, readEntriesFrom, readEntriesFrom, h k j List.mem_cons_self]
    cases read j with
    | error e => rfl
    | ok a =>
      have hread := hrest (m.insert k a)
      rw [KeyMap.map_insert fun e => f e.1 e.2] at hread
      exact hread

end RecordShape
