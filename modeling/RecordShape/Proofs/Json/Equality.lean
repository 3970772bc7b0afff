import RecordShape.Json.Basic

/-!
# Equal values

Doubles are compared by value, so both zeros are the same, and an integer is never a double. Apart
from zeros a double is known by its value, so a value without a double zero is the same as itself
and as nothing else.
-/

namespace RecordShape

theorem Double.eq_of_same {x y : Double} (h : x.same y = true) (hzero : x.units ≠ 0) : x = y := by
  have hscaled : x.scaled = y.scaled := beq_iff_eq.mp h
  have hparts : x.units = y.units ∧ x.negative = y.negative := by
    unfold scaled at hscaled
    cases hx : x.negative <;> cases hy : y.negative <;> simp [hx, hy] at hscaled ⊢ <;> omega
  obtain ⟨hunits, hnegative⟩ := hparts
  -- Rounding its units gives back either of them.
  have hround : round? y.negative y.units 1 = some x := by
    rw [← hunits, ← hnegative]
    exact round?_units x x.negative
  exact Option.some.inj (hround.symm.trans (round?_units y y.negative))

/-- Equality of numbers, for which doubles with the same value are the same. -/
def Number.same : Number → Number → Bool
  | .int m, .int n => m = n
  | .double x, .double y => x.same y
  | _, _ => false

namespace Json

mutual
/-- Equality of values, for which doubles with the same value are the same. -/
def same : Json → Json → Bool
  | null, null => true
  | bool a, bool b => a = b
  | num m, num n => m.same n
  | str s, str t => s = t
  | arr a, arr b => sameItems a b
  | obj a, obj b => sameMembers a b
  | _, _ => false

def sameItems : List Json → List Json → Bool
  | [], [] => true
  | a :: as, b :: bs => same a b && sameItems as bs
  | _, _ => false

def sameMembers : List (String × Json) → List (String × Json) → Bool
  | [], [] => true
  | (k, a) :: as, (l, b) :: bs => k = l && same a b && sameMembers as bs
  | _, _ => false
end

/-- No double in the value is a zero. -/
inductive ZeroFree : Json → Prop where
  | null : ZeroFree null
  | bool (b : Bool) : ZeroFree (bool b)
  | int (n : Int) : ZeroFree (num (.int n))
  | double (x : Double) (h : x.units ≠ 0) : ZeroFree (num (.double x))
  | str (s : String) : ZeroFree (str s)
  | arr (items : List Json) (h : ∀ j ∈ items, ZeroFree j) : ZeroFree (arr items)
  | obj (members : List (String × Json)) (h : ∀ member ∈ members, ZeroFree member.2) :
    ZeroFree (obj members)

private theorem sameItems_iff {items : List Json}
    (h : ∀ j ∈ items, ∀ k, j.same k = true ↔ j = k) (items' : List Json) :
    sameItems items items' = true ↔ items = items' := by
  induction items generalizing items' with
  | nil => cases items' <;> simp [sameItems]
  | cons j rest ih =>
    cases items' with
    | nil => simp [sameItems]
    | cons k rest' =>
      rw [sameItems, Bool.and_eq_true, h j List.mem_cons_self k,
        ih (fun j hj => h j (List.mem_cons_of_mem _ hj)) rest', List.cons.injEq]

private theorem sameMembers_iff {members : List (String × Json)}
    (h : ∀ member ∈ members, ∀ k, member.2.same k = true ↔ member.2 = k)
    (members' : List (String × Json)) :
    sameMembers members members' = true ↔ members = members' := by
  induction members generalizing members' with
  | nil => cases members' <;> simp [sameMembers]
  | cons member rest ih =>
    cases members' with
    | nil => simp [sameMembers]
    | cons member' rest' =>
      obtain ⟨key, j⟩ := member
      obtain ⟨key', k⟩ := member'
      rw [sameMembers, Bool.and_eq_true, Bool.and_eq_true, decide_eq_true_eq,
        h (key, j) List.mem_cons_self k,
        ih (fun member hmember => h member (List.mem_cons_of_mem _ hmember)) rest',
        List.cons.injEq, Prod.mk.injEq]

/-- Without zeros, being the same is being equal. -/
theorem ZeroFree.same_iff {j : Json} (h : j.ZeroFree) (k : Json) : j.same k = true ↔ j = k := by
  induction h generalizing k with
  | double x hx =>
    cases k with
    | num n =>
      cases n with
      | int m => simp [same, Number.same]
      | double y =>
        rw [same, Number.same, num.injEq, Number.double.injEq]
        exact ⟨fun hsame => Double.eq_of_same hsame hx, fun heq => heq ▸ beq_self_eq_true _⟩
    | _ => simp [same]
  | int n =>
    cases k with
    | num m => cases m <;> simp [same, Number.same]
    | _ => simp [same]
  | arr items _ ih =>
    cases k with
    | arr items' => rw [same, sameItems_iff ih, arr.injEq]
    | _ => simp [same]
  | obj members _ ih =>
    cases k with
    | obj members' => rw [same, sameMembers_iff ih, obj.injEq]
    | _ => simp [same]
  | _ => cases k <;> simp [same]

theorem zeroFree_ofNat (n : Nat) : (ofNat n).ZeroFree := .int n

theorem zeroFree_strings (texts : List String) : (strings texts).ZeroFree := by
  refine .arr _ fun j hj => ?_
  obtain ⟨text, -, rfl⟩ := List.mem_map.mp hj
  exact .str text

theorem zeroFree_ofMembers {members : List (String × Option Json)}
    (h : ∀ member ∈ members, ∀ j, member.2 = some j → j.ZeroFree) :
    (ofMembers members).ZeroFree := by
  refine .obj _ fun entry hentry => ?_
  obtain ⟨member, hmember, heq⟩ := List.mem_filterMap.mp hentry
  obtain ⟨j, hj, rfl⟩ := Option.map_eq_some_iff.mp heq
  exact h member hmember j hj

end Json
end RecordShape
