import Mathlib.Data.String.Basic
import RecordShape.KeyMap

/-!
# Keys in order

Maps that are built by insertion have their keys in order, so that a key has one value and looking
it up finds it.
-/

namespace RecordShape

namespace KeyMap
variable {α : Type} {key : String} {value : α} {m : KeyMap α}

theorem eq_or_mem_of_mem_insert {entry : String × α} (h : entry ∈ m.insert key value) :
    entry = (key, value) ∨ entry ∈ m := by
  induction m with
  | nil =>
    rw [insert, List.mem_singleton] at h
    exact .inl h
  | cons first rest ih =>
    obtain ⟨k, v⟩ := first
    unfold insert at h
    split at h
    · exact List.mem_cons.mp h
    · split at h
      · exact (List.mem_cons.mp h).imp id (List.mem_cons_of_mem _)
      · rcases List.mem_cons.mp h with h | h
        · exact .inr (h ▸ List.mem_cons_self)
        · exact (ih h).imp id (List.mem_cons_of_mem _)

theorem key_of_mem_insert {entry : String × α} (h : entry ∈ m.insert key value) :
    entry.1 = key ∨ entry ∈ m :=
  (eq_or_mem_of_mem_insert h).imp (congrArg Prod.fst) id

theorem nodup_keys (h : m.Ordered) : (keys m).Nodup :=
  List.pairwise_map.mpr (h.imp fun hlt => hlt.ne)

theorem ordered_insert (h : m.Ordered) : Ordered (m.insert key value) := by
  induction m with
  | nil => exact List.pairwise_singleton _ _
  | cons first rest ih =>
    obtain ⟨k, v⟩ := first
    obtain ⟨hfirst, hrest⟩ := List.pairwise_cons.mp h
    unfold insert
    split
    · rename_i hlt
      refine List.pairwise_cons.mpr ⟨fun entry hentry => ?_, h⟩
      rcases List.mem_cons.mp hentry with rfl | hentry
      · exact hlt
      · exact hlt.trans (hfirst entry hentry)
    · rename_i hnlt
      split
      · rename_i heq
        exact List.pairwise_cons.mpr ⟨fun entry hentry => heq ▸ hfirst entry hentry, hrest⟩
      · rename_i hne
        refine List.pairwise_cons.mpr ⟨fun entry hentry => ?_, ih hrest⟩
        rcases key_of_mem_insert hentry with hkey | hentry
        · rw [hkey]
          exact lt_of_le_of_ne (not_lt.mp hnlt) (Ne.symm hne)
        · exact hfirst entry hentry

/-- Every entry of a map is found under its key. -/
theorem find?_eq_some_iff (h : m.Ordered) : m.find? key = some value ↔ (key, value) ∈ m := by
  refine ⟨mem_of_find?_eq_some, fun hmem => ?_⟩
  induction m with
  | nil => cases hmem
  | cons first rest ih =>
    obtain ⟨k, v⟩ := first
    obtain ⟨hfirst, hrest⟩ := List.pairwise_cons.mp h
    rcases List.mem_cons.mp hmem with heq | hmem
    · cases heq
      rw [find?, if_pos rfl]
    · rw [find?, if_neg (hfirst _ hmem).ne]
      exact ih hrest hmem

theorem insert_of_lt (h : ∀ entry ∈ m, key < entry.1) : m.insert key value = (key, value) :: m := by
  cases m with
  | nil => rfl
  | cons first rest => rw [insert, if_pos (h first List.mem_cons_self)]

theorem insert_of_gt (h : ∀ entry ∈ m, entry.1 < key) :
    m.insert key value = m ++ [(key, value)] := by
  induction m with
  | nil => rfl
  | cons first rest ih =>
    have hlt := h first List.mem_cons_self
    rw [insert, if_neg (lt_asymm hlt), if_neg hlt.ne', List.cons_append,
      ih fun entry hentry => h entry (List.mem_cons_of_mem _ hentry)]

theorem lt_of_ordered_append {entry : String × α} {before after : List (String × α)}
    (h : Ordered (before ++ entry :: after)) : ∀ e ∈ before, e.1 < entry.1 := fun e he =>
  (List.pairwise_append.mp h).2.2 e he entry List.mem_cons_self

theorem foldl_insert_of_ordered {entries : List (String × α)} (h : Ordered (m ++ entries)) :
    entries.foldl (fun m e => m.insert e.1 e.2) m = m ++ entries := by
  induction entries generalizing m with
  | nil => exact (List.append_nil m).symm
  | cons entry rest ih =>
    rw [List.foldl_cons, insert_of_gt (lt_of_ordered_append h), ih, List.append_assoc,
      List.singleton_append]
    rwa [List.append_assoc, List.singleton_append]

theorem ofList_of_ordered (h : m.Ordered) : ofList m = m := foldl_insert_of_ordered h

theorem ordered_ofList (entries : List (String × α)) : (ofList entries).Ordered := by
  suffices h : ∀ m : KeyMap α, m.Ordered →
      Ordered (entries.foldl (fun m e => m.insert e.1 e.2) m) from h [] List.Pairwise.nil
  induction entries with
  | nil => exact fun m hm => hm
  | cons entry rest ih => exact fun m hm => ih _ (ordered_insert hm)

theorem mem_of_mem_ofList {entry : String × α} {entries : List (String × α)}
    (h : entry ∈ ofList entries) : entry ∈ entries := by
  suffices hfold : ∀ m : KeyMap α, entry ∈ entries.foldl (fun m e => m.insert e.1 e.2) m →
      entry ∈ m ∨ entry ∈ entries from (hfold [] h).resolve_left List.not_mem_nil
  clear h
  induction entries with
  | nil => exact fun m hm => .inl hm
  | cons first rest ih =>
    intro m hm
    rcases ih _ hm with hm | hm
    · rcases eq_or_mem_of_mem_insert hm with rfl | hm
      · exact .inr List.mem_cons_self
      · exact .inl hm
    · exact .inr (List.mem_cons_of_mem _ hm)

theorem find?_insert_of_ne {other : String} (h : other ≠ key) :
    (m.insert key value).find? other = m.find? other := by
  induction m with
  | nil => simp [insert, find?, Ne.symm h]
  | cons first rest ih =>
    obtain ⟨k, v⟩ := first
    unfold insert
    split
    · rw [find?, if_neg (Ne.symm h)]
    · split
      · rename_i heq
        rw [find?, find?, if_neg (Ne.symm h), if_neg (heq ▸ Ne.symm h)]
      · rw [find?, find?, ih]

theorem find?_insert_self : (m.insert key value).find? key = some value := by
  induction m with
  | nil => simp [insert, find?]
  | cons first rest ih =>
    obtain ⟨k, v⟩ := first
    unfold insert
    split
    · rw [find?, if_pos rfl]
    · split
      · rw [find?, if_pos rfl]
      · rename_i hne
        rw [find?, if_neg (Ne.symm hne), ih]

theorem filter_insert (h : m.Ordered) (hnew : m.find? key = none) (p : String × α → Bool) :
    (m.insert key value).filter p =
      if p (key, value) then insert key value (m.filter p) else m.filter p := by
  induction m with
  | nil => cases hp : p (key, value) <;> simp [insert, hp]
  | cons first rest ih =>
    obtain ⟨k, v⟩ := first
    obtain ⟨hfirst, hrest⟩ := List.pairwise_cons.mp h
    by_cases hk : k = key
    · rw [find?, if_pos hk] at hnew
      cases hnew
    rw [find?, if_neg hk] at hnew
    by_cases hlt : key < k
    · have hall : ∀ entry ∈ (k, v) :: rest, key < entry.1 := by
        intro entry hentry
        rcases List.mem_cons.mp hentry with rfl | hentry
        · exact hlt
        · exact hlt.trans (hfirst entry hentry)
      rw [insert_of_lt hall, List.filter_cons,
        insert_of_lt fun entry hentry => hall entry (List.mem_of_mem_filter hentry)]
    · have hinsert (l : KeyMap α) :
          insert key value ((k, v) :: l) = (k, v) :: insert key value l := by
        rw [insert, if_neg hlt, if_neg (Ne.symm hk)]
      rw [hinsert, List.filter_cons, List.filter_cons, ih hrest hnew]
      cases p (k, v) <;> cases p (key, value) <;> simp [hinsert]

theorem map_insert {β : Type} (f : String × α → β) :
    (m.insert key value).map (fun entry => (entry.1, f entry)) =
      insert key (f (key, value)) (m.map fun entry => (entry.1, f entry)) := by
  induction m with
  | nil => rfl
  | cons first rest ih =>
    obtain ⟨k, v⟩ := first
    simp only [insert, List.map_cons]
    split
    · rfl
    · split
      · rfl
      · rw [List.map_cons, ih]

theorem filter_flatMap {β : Type} (h : m.Ordered) (hfound : m.find? key = some value)
    {f : String × α → List β} {source : β → String} (hsource : ∀ e, ∀ b ∈ f e, source b = e.1) :
    ((m.flatMap f).filter fun b => source b = key) = f (key, value) := by
  induction m with
  | nil => cases hfound
  | cons first rest ih =>
    obtain ⟨k, v⟩ := first
    obtain ⟨hfirst, hrest⟩ := List.pairwise_cons.mp h
    rw [List.flatMap_cons, List.filter_append]
    by_cases hk : k = key
    · subst hk
      rw [find?, if_pos rfl, Option.some.injEq] at hfound
      subst hfound
      have hothers : ((rest.flatMap f).filter fun b => source b = k) = [] := by
        refine List.filter_eq_nil_iff.mpr fun b hb => ?_
        obtain ⟨e, he, hb⟩ := List.mem_flatMap.mp hb
        rw [decide_eq_true_eq, hsource e b hb]
        exact (hfirst e he).ne'
      rw [hothers, List.append_nil]
      exact List.filter_eq_self.mpr fun b hb => decide_eq_true (hsource _ b hb)
    · have hnone : ((f (k, v)).filter fun b => source b = key) = [] := by
        refine List.filter_eq_nil_iff.mpr fun b hb => ?_
        rw [decide_eq_true_eq, hsource _ b hb]
        exact hk
      rw [find?, if_neg hk] at hfound
      rw [hnone, List.nil_append, ih hrest hfound]

end KeyMap

end RecordShape
