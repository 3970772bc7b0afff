import RecordShape.Config.Basic
import RecordShape.Proofs.Reading.Pieces
import RecordShape.Reading.Text

/-!
# Written values are read back

A layout puts only blanks between the parts of a value, and these are passed over. Every value that
is written is therefore read as the value that it was, whatever follows it, as long as its numbers
are words and its brackets do not nest too deep.
-/

namespace RecordShape

/-- The numbers of a value are words, and its brackets nest at most so many levels deep. -/
inductive Json.Fits : Nat → Json → Prop where
  | null (levels : Nat) : Fits levels .null
  | bool (levels : Nat) (b : Bool) : Fits levels (.bool b)
  | word (levels : Nat) {n : Nat} (hn : IsWord n) : Fits levels (.ofNat n)
  | str (levels : Nat) (s : String) : Fits levels (.str s)
  | arr {levels : Nat} {items : List Json} (h : ∀ j ∈ items, Fits levels j) :
    Fits (levels + 1) (.arr items)
  | obj {levels : Nat} {members : List (String × Json)} (h : ∀ m ∈ members, Fits levels m.2) :
    Fits (levels + 1) (.obj members)

namespace Scan
open Piece (EndsNumber)

variable {α β : Type} {s rest rest' : List Char}

/-! ## Running a scanner on a text -/

section
variable {scan : Scan α} {a : α} {b : β}

theorem bind_ok (f : α → Scan β) (h : scan s = .ok a rest) : (scan >>= f) s = f a rest := by
  change EStateM.bind scan f s = f a rest
  rw [EStateM.bind, h]

theorem seqRight_ok {scan : Scan Unit} (next : Scan β) (h : scan s = .ok () rest) :
    (scan *> next) s = next rest := by
  rw [seqRight_eq_bind]
  exact bind_ok _ h

theorem within_ok (step : Step) (h : scan s = .ok a rest) : within step scan s = .ok a rest := by
  rw [within, h]

theorem piece_ok {p : List Char → Piece α} (h : p s = .ok (a, rest)) :
    piece p s = .ok a rest := by
  rw [piece, h]

end

theorem drop_cons (c : Char) (rest : List Char) : drop (c :: rest) = .ok () rest := rfl

def AllBlank (s : List Char) : Prop := ∀ c ∈ s, isBlank c = true

theorem allBlank_nil : AllBlank [] := List.forall_mem_nil _

theorem peek_blanks {blanks : List Char} {c : Char} (hblanks : AllBlank blanks)
    (hc : isBlank c = false) (rest : List Char) :
    peek (blanks ++ c :: rest) = .ok (some c) (c :: rest) := by
  rw [peek, dropWhile_stretch hblanks (by simpa using hc)]
  rfl

theorem peek_here {c : Char} (hc : isBlank c = false) (rest : List Char) :
    peek (c :: rest) = .ok (some c) (c :: rest) :=
  peek_blanks allBlank_nil hc rest

/-! ## Lists -/

/-- The scanner takes this text, whatever follows it, and says that it stands for a value. -/
def Takes (scan : Scan α) (text : List Char) (a : α) : Prop :=
  ∀ rest, EndsNumber rest → scan (text ++ rest) = .ok a rest

/-- The text begins with what can be the beginning of a value. -/
def Begins (text : List Char) : Prop := ∃ c s, text = c :: s ∧ isBlank c = false ∧ c ≠ ']'

theorem endsNumber_blanks {blanks : List Char} {c : Char} (hblanks : AllBlank blanks)
    (hc : Piece.isDigit c = false ∧ c ≠ '.' ∧ c ≠ 'e' ∧ c ≠ 'E') (rest : List Char) :
    EndsNumber (blanks ++ c :: rest) := by
  intro d hd
  cases blanks with
  | nil =>
    obtain rfl : c = d := Option.some.inj hd
    exact hc
  | cons blank blanks =>
    obtain rfl : blank = d := Option.some.inj hd
    have hblank := hblanks blank List.mem_cons_self
    simp only [isBlank, Bool.or_eq_true, decide_eq_true_eq] at hblank
    rcases hblank with ((rfl | rfl) | rfl) | rfl <;> decide

/-- The parts in a bracket that come after the first one, each behind a comma. -/
def following (write : α → List Char) (items : List α) : List Char :=
  items.flatMap fun a => ',' :: write a

theorem endsNumber_following (write : α → List Char) (items : List α) (hrest : EndsNumber rest) :
    EndsNumber (following write items ++ rest) := by
  cases items with
  | nil => exact hrest
  | cons a items =>
    intro c hc
    obtain rfl : ',' = c := Option.some.inj hc
    decide

theorem length_le_following (write : α → List Char) (items : List α) :
    items.length ≤ (following write items).length := by
  induction items with
  | nil => exact Nat.zero_le _
  | cons a items ih =>
    rw [following] at ih ⊢
    rw [List.flatMap_cons, List.length_append, List.length_cons, List.length_cons]
    omega

section
variable {blanks : List Char}

theorem anotherElement_end (first : Bool) (hblanks : AllBlank blanks) (rest : List Char) :
    anotherElement first (blanks ++ ']' :: rest) = .ok false (']' :: rest) := by
  rw [anotherElement, bind_ok _ (peek_blanks hblanks (by decide) rest)]
  rfl

theorem anotherElement_first (hblanks : AllBlank blanks) {text : List Char} (h : Begins text)
    (rest : List Char) :
    anotherElement true (blanks ++ (text ++ rest)) = .ok true (text ++ rest) := by
  obtain ⟨c, s, rfl, hblank, hend⟩ := h
  rw [anotherElement, List.cons_append, bind_ok _ (peek_blanks hblanks hblank _)]
  -- The character is not the bracket.
  simp only
  rfl

theorem anotherElement_comma (hblanks : AllBlank blanks) {text : List Char} (h : Begins text)
    (rest : List Char) :
    anotherElement false (',' :: (blanks ++ (text ++ rest))) = .ok true (text ++ rest) := by
  obtain ⟨c, s, rfl, hblank, hend⟩ := h
  rw [anotherElement, bind_ok _ (peek_here (by decide) _)]
  refine (bind_ok _ (drop_cons ',' _)).trans ?_
  rw [List.cons_append, bind_ok _ (peek_blanks hblanks hblank _)]
  simp only
  rfl

end

section
variable {element : Scan α} {gap stop : List Char}

theorem elements_end {i : Nat} (fuel : Nat)
    (hnone : anotherElement (i = 0) s = .ok false rest) :
    elements element i (fuel + 1) s = .ok [] rest := by
  rw [elements, bind_ok _ (within_ok _ hnone)]
  rfl

theorem elements_next {i fuel : Nat} {a : α} {as : List α} {s₁ s₂ : List Char}
    (hmore : anotherElement (i = 0) s = .ok true s₁) (ha : element s₁ = .ok a s₂)
    (has : elements element (i + 1) fuel s₂ = .ok as rest) :
    elements element i (fuel + 1) s = .ok (a :: as) rest := by
  rw [elements, bind_ok _ (within_ok _ hmore)]
  refine (bind_ok _ (within_ok _ ha)).trans ?_
  rw [bind_ok _ has]
  rfl

theorem elements_following (write : α → List Char) (hgap : AllBlank gap) (hstop : AllBlank stop)
    {items : List α} (hitems : ∀ a ∈ items, Begins (write a) ∧ Takes element (write a) a)
    {i fuel : Nat} (hfuel : items.length < fuel) (rest : List Char) :
    elements element (i + 1) fuel
      (following (fun a => gap ++ write a) items ++ (stop ++ ']' :: rest)) =
        .ok items (']' :: rest) := by
  have hstopped : EndsNumber (stop ++ ']' :: rest) := endsNumber_blanks hstop (by decide) rest
  induction items generalizing i fuel with
  | nil =>
    obtain ⟨fuel, rfl⟩ : ∃ n, fuel = n + 1 := Nat.exists_eq_add_one.mpr hfuel
    exact elements_end fuel (anotherElement_end _ hstop rest)
  | cons a items ih =>
    obtain ⟨fuel, rfl⟩ : ∃ n, fuel = n + 1 := Nat.exists_eq_add_one.mpr (Nat.zero_lt_of_lt hfuel)
    obtain ⟨⟨hbegins, htakes⟩, hitems⟩ := List.forall_mem_cons.mp hitems
    have hends := endsNumber_following (fun a => gap ++ write a) items hstopped
    have hrest := @ih hitems (i + 1) fuel (Nat.lt_of_succ_lt_succ hfuel)
    rw [following, List.flatMap_cons, List.cons_append, List.cons_append, List.append_assoc,
      List.append_assoc]
    exact elements_next (anotherElement_comma hgap hbegins _) (htakes _ hends) hrest

theorem elements_written (write : α → List Char) (hgap : AllBlank gap) (hstop : AllBlank stop)
    {a : α} {items : List α}
    (hitems : ∀ b ∈ a :: items, Begins (write b) ∧ Takes element (write b) b) (rest : List Char) :
    repeated (elements element 0)
      (gap ++ (write a ++ (following (fun a => gap ++ write a) items ++ (stop ++ ']' :: rest)))) =
        .ok (a :: items) (']' :: rest) := by
  obtain ⟨⟨hbegins, htakes⟩, hitems⟩ := List.forall_mem_cons.mp hitems
  have hstopped : EndsNumber (stop ++ ']' :: rest) := endsNumber_blanks hstop (by decide) rest
  have hends := endsNumber_following (fun a => gap ++ write a) items hstopped
  refine elements_next (anotherElement_first hgap hbegins _) (htakes _ hends)
    (elements_following write hgap hstop hitems ?_ rest)
  have hle := length_le_following (fun a => gap ++ write a) items
  simp only [List.length_append, List.length_cons]
  omega

end

theorem listEnd_here (rest : List Char) : listEnd (']' :: rest) = .ok () rest := by
  rw [listEnd, bind_ok _ (peek_here (by decide) rest)]
  rfl

/-! ## Objects -/

theorem string_quoted (name : String) (rest : List Char) :
    string ((name.toList.flatMap fun c => (Json.escape c).toList) ++ '"' :: rest) =
      .ok name rest :=
  piece_ok (Piece.stringBody_quoted name rest)

section
variable {blanks : List Char}

theorem memberName_end (first : Bool) (hblanks : AllBlank blanks) (rest : List Char) :
    memberName first (blanks ++ '}' :: rest) = .ok none ('}' :: rest) := by
  have hnone : anotherMember first (blanks ++ '}' :: rest) = .ok false ('}' :: rest) := by
    rw [anotherMember, bind_ok _ (peek_blanks hblanks (by decide) rest)]
    rfl
  refine within_ok _ ?_
  rw [bind_ok _ hnone]
  rfl

theorem memberName_of_another {first : Bool} {name : String}
    (hmore : anotherMember first s = .ok true ((Json.quote name).toList ++ rest)) :
    memberName first s = .ok (some name) rest := by
  refine within_ok _ ?_
  rw [bind_ok _ hmore, Piece.toList_quote, List.cons_append, List.append_assoc]
  refine (bind_ok _ (drop_cons '"' _)).trans ?_
  exact (bind_ok _ (string_quoted name rest)).trans rfl

theorem memberName_first (hblanks : AllBlank blanks) (name : String) (rest : List Char) :
    memberName true (blanks ++ ((Json.quote name).toList ++ rest)) = .ok (some name) rest := by
  refine memberName_of_another ?_
  rw [Piece.toList_quote, List.cons_append, anotherMember,
    bind_ok _ (peek_blanks hblanks (by decide) _)]
  rfl

theorem memberName_comma (hblanks : AllBlank blanks) (name : String) (rest : List Char) :
    memberName false (',' :: (blanks ++ ((Json.quote name).toList ++ rest))) =
      .ok (some name) rest := by
  refine memberName_of_another ?_
  rw [Piece.toList_quote, List.cons_append, anotherMember, bind_ok _ (peek_here (by decide) _)]
  refine (bind_ok _ (drop_cons ',' _)).trans ?_
  rw [bind_ok _ (peek_blanks hblanks (by decide) _)]
  rfl

end

section
variable {read : String → Scan α} {gap stop : List Char}

theorem members_end {first : Bool} (fuel : Nat) (hnone : memberName first s = .ok none rest) :
    members read first (fuel + 1) s = .ok [] rest := by
  rw [members, bind_ok _ hnone]
  rfl

theorem members_next {first : Bool} {fuel : Nat} {key : String} {a : α} {as : List α}
    {s₁ s₂ : List Char} (hmore : memberName first s = .ok (some key) (':' :: s₁))
    (ha : read key s₁ = .ok a s₂) (has : members read false fuel s₂ = .ok as rest) :
    members read first (fuel + 1) s = .ok (a :: as) rest := by
  have hcolon : colon (':' :: s₁) = .ok () s₁ := by
    rw [colon, bind_ok _ (peek_here (by decide) _)]
    rfl
  have hpart : (colon *> read key) (':' :: s₁) = .ok a s₂ := by
    rw [seqRight_ok _ hcolon, ha]
  rw [members, bind_ok _ hmore]
  refine (bind_ok _ (within_ok _ hpart)).trans ?_
  rw [bind_ok _ has]
  rfl

theorem members_following (name : α → String) (write : α → List Char) (hgap : AllBlank gap)
    (hstop : AllBlank stop) {entries : List α}
    (hentries : ∀ a ∈ entries, Takes (read (name a)) (write a) a) {fuel : Nat}
    (hfuel : entries.length < fuel) (rest : List Char) :
    members read false fuel
      (following (fun a => gap ++ ((Json.quote (name a)).toList ++ ':' :: write a)) entries ++
        (stop ++ '}' :: rest)) = .ok entries ('}' :: rest) := by
  have hstopped : EndsNumber (stop ++ '}' :: rest) := endsNumber_blanks hstop (by decide) rest
  induction entries generalizing fuel with
  | nil =>
    obtain ⟨fuel, rfl⟩ : ∃ n, fuel = n + 1 := Nat.exists_eq_add_one.mpr hfuel
    exact members_end fuel (memberName_end _ hstop rest)
  | cons a entries ih =>
    obtain ⟨fuel, rfl⟩ : ∃ n, fuel = n + 1 := Nat.exists_eq_add_one.mpr (Nat.zero_lt_of_lt hfuel)
    obtain ⟨htakes, hentries⟩ := List.forall_mem_cons.mp hentries
    have hends := endsNumber_following
      (fun a => gap ++ ((Json.quote (name a)).toList ++ ':' :: write a)) entries hstopped
    have hrest := ih hentries (Nat.lt_of_succ_lt_succ hfuel)
    simp only [following, List.flatMap_cons, List.cons_append, List.append_assoc]
    exact members_next (memberName_comma hgap (name a) _) (htakes _ hends) hrest

theorem members_written (name : α → String) (write : α → List Char) (hgap : AllBlank gap)
    (hstop : AllBlank stop) {a : α} {entries : List α}
    (hentries : ∀ b ∈ a :: entries, Takes (read (name b)) (write b) b) (rest : List Char) :
    repeated (members read true) (gap ++ ((Json.quote (name a)).toList ++ ':' :: (write a ++
      (following (fun a => gap ++ ((Json.quote (name a)).toList ++ ':' :: write a)) entries ++
        (stop ++ '}' :: rest))))) = .ok (a :: entries) ('}' :: rest) := by
  obtain ⟨htakes, hentries⟩ := List.forall_mem_cons.mp hentries
  have hstopped : EndsNumber (stop ++ '}' :: rest) := endsNumber_blanks hstop (by decide) rest
  have hends := endsNumber_following
    (fun a => gap ++ ((Json.quote (name a)).toList ++ ':' :: write a)) entries hstopped
  refine members_next (memberName_first hgap (name a) _) (htakes _ hends)
    (members_following name write hgap hstop hentries ?_ rest)
  have hle := length_le_following
    (fun a => gap ++ ((Json.quote (name a)).toList ++ ':' :: write a)) entries
  simp only [List.length_append, List.length_cons] at hle ⊢
  omega

end

theorem objectEnd_here (rest : List Char) : objectEnd ('}' :: rest) = .ok () rest := by
  rw [objectEnd, bind_ok _ (peek_here (by decide) rest)]
  rfl

/-! ## Values -/

theorem entered_ok {depth : Nat} {body : Scan α} {finish : Scan Unit} {a : α} (c : Char)
    (hbody : body s = .ok a rest) (hfinish : finish rest = .ok () rest') :
    entered (depth + 2) body finish (c :: s) = .ok a rest' := by
  rw [entered, if_neg (by omega), bind_ok _ (drop_cons c s), enclosed, hbody]
  exact seqRight_ok _ hfinish

section
variable {blanks : List Char}

theorem value_simple (hblanks : AllBlank blanks) {c : Char} (hc : isBlank c = false)
    (hlist : c ≠ '[') (hobject : c ≠ '{') (depth : Nat) (s : List Char) :
    value (depth + 1) (blanks ++ c :: s) = simpleValue c (c :: s) := by
  rw [value, bind_ok _ (peek_blanks hblanks hc s)]
  simp only

theorem value_list (hblanks : AllBlank blanks) {depth : Nat} {items : List Json}
    (h : repeated (elements (value (depth + 1)) 0) s = .ok items (']' :: rest)) :
    value (depth + 2) (blanks ++ '[' :: s) = .ok (.arr items) rest := by
  rw [value, bind_ok _ (peek_blanks hblanks (by decide) s)]
  refine (bind_ok _ (entered_ok '[' h (listEnd_here rest))).trans ?_
  rfl

/-- What is read of a member: its name and its value. -/
def member (depth : Nat) (name : String) : Scan (String × Json) := return (name, ← value depth)

theorem value_object (hblanks : AllBlank blanks) {depth : Nat} {entries : List (String × Json)}
    (h : repeated (members (member (depth + 1)) true) s = .ok entries ('}' :: rest)) :
    value (depth + 2) (blanks ++ '{' :: s) = .ok (.obj entries) rest := by
  rw [value, bind_ok _ (peek_blanks hblanks (by decide) s)]
  refine (bind_ok _ (entered_ok '{' h (objectEnd_here rest))).trans ?_
  rfl

end

end Scan

namespace Json.Layout
open Scan Piece

variable {layout : Layout} {level levels : Nat} {blanks : List Char}

theorem allBlank_of {s : List Char} (h : ∀ c ∈ s, c = ' ' ∨ c = '\n') : AllBlank s := by
  intro c hc
  rcases h c hc with rfl | rfl <;> rfl

theorem allBlank_gap (layout : Layout) (level : Nat) : AllBlank (layout.gap level) :=
  allBlank_of (layout.gap_blank level)

theorem allBlank_space (layout : Layout) : AllBlank layout.space :=
  allBlank_of layout.space_blank

theorem toList_write_ofNat (layout : Layout) (level n : Nat) :
    (layout.write level (.ofNat n)).toList = Nat.toDigits 10 n := by
  have hwrite : layout.write level (.ofNat n) = toString n := rfl
  rw [hwrite, Nat.toString_eq_ofList_toDigits, String.toList_ofList]

theorem toList_write_null (layout : Layout) (level : Nat) :
    (layout.write level .null).toList = ['n', 'u', 'l', 'l'] := by
  rw [write]
  rfl

theorem toList_write_bool (layout : Layout) (level : Nat) (b : Bool) :
    (layout.write level (.bool b)).toList =
      if b then ['t', 'r', 'u', 'e'] else ['f', 'a', 'l', 's', 'e'] := by
  rw [write]
  cases b <;> rfl

theorem toList_write_arr_nil (layout : Layout) (level : Nat) :
    (layout.write level (.arr [])).toList = ['[', ']'] := by
  rw [write, writeItems, toList_block_nil]
  rfl

theorem toList_write_arr_cons (layout : Layout) (level : Nat) (first : Json) (items : List Json) :
    (layout.write level (.arr (first :: items))).toList =
      '[' :: (layout.gap (level + 1) ++ ((layout.write (level + 1) first).toList ++
        (following (fun j => layout.gap (level + 1) ++ (layout.write (level + 1) j).toList) items ++
          (layout.gap level ++ [']'])))) := by
  rw [write, writeItems_eq, List.map_cons, toList_block_cons, List.flatMap_map]
  rfl

theorem toList_write_obj_nil (layout : Layout) (level : Nat) :
    (layout.write level (.obj [])).toList = ['{', '}'] := by
  rw [write, writeMembers, toList_block_nil]
  rfl

/-- What stands behind the colon of a member. -/
def writeValue (layout : Layout) (level : Nat) (m : String × Json) : List Char :=
  layout.space ++ (layout.write level m.2).toList

theorem toList_write_obj_cons (layout : Layout) (level : Nat) (first : String × Json)
    (members : List (String × Json)) :
    (layout.write level (.obj (first :: members))).toList =
      '{' :: (layout.gap (level + 1) ++ ((quote first.1).toList ++
        ':' :: (layout.writeValue (level + 1) first ++
          (following (fun m => layout.gap (level + 1) ++
              ((quote m.1).toList ++ ':' :: layout.writeValue (level + 1) m)) members ++
            (layout.gap level ++ ['}']))))) := by
  have hmember (m : String × Json) : (quote m.1 ++ ":" ++ String.ofList layout.space ++
      layout.write (level + 1) m.2).toList =
        (quote m.1).toList ++ ':' :: layout.writeValue (level + 1) m := by
    simp [writeValue]
  rw [write, writeMembers_eq, List.map_cons, toList_block_cons, List.flatMap_map]
  simp only [hmember, List.append_assoc, List.cons_append]
  rfl

theorem exists_toDigits_eq (n : Nat) :
    ∃ d ds, Nat.toDigits 10 n = d :: ds ∧ isDigit d = true := by
  obtain ⟨d, ds, hdigits⟩ := List.exists_cons_of_ne_nil (@Nat.toDigits_ne_nil n 10)
  have hd : d ∈ Nat.toDigits 10 n := hdigits ▸ List.mem_cons_self
  exact ⟨d, ds, hdigits, Nat.isDigit_of_mem_toDigits (by decide) (by decide) hd⟩

theorem isBlank_of_isDigit {c : Char} (h : isDigit c = true) : isBlank c = false := by
  simp only [isBlank, Bool.or_eq_false_iff, decide_eq_false_iff_not]
  refine ⟨⟨⟨?_, ?_⟩, ?_⟩, ?_⟩ <;> rintro rfl <;> cases h

theorem begins_write {j : Json} (h : j.Fits levels) : Begins (layout.write level j).toList := by
  cases h with
  | null => exact ⟨'n', _, layout.toList_write_null level, rfl, by decide⟩
  | bool _ b =>
    rw [toList_write_bool]
    cases b with
    | true => exact ⟨'t', _, rfl, rfl, by decide⟩
    | false => exact ⟨'f', _, rfl, rfl, by decide⟩
  | @word _ n hn =>
    obtain ⟨d, ds, hdigits, hd⟩ := exists_toDigits_eq n
    rw [toList_write_ofNat, hdigits]
    refine ⟨d, ds, rfl, isBlank_of_isDigit hd, ?_⟩
    rintro rfl
    cases hd
  | str _ s => exact ⟨'"', _, toList_quote s, rfl, by decide⟩
  | @arr levels items h =>
    obtain ⟨rest, hrest⟩ := layout.exists_toList_block "[" "]" level _
    exact ⟨'[', rest, hrest, rfl, by decide⟩
  | @obj levels members h =>
    obtain ⟨rest, hrest⟩ := layout.exists_toList_block "\x7b" "\x7d" level _
    exact ⟨'{', rest, hrest, rfl, by decide⟩

theorem simpleValue_digit {c : Char} (h : isDigit c = true) :
    simpleValue c = do return .num (← piece (number false)) := by
  have hn : c ≠ 'n' := by rintro rfl; cases h
  have ht : c ≠ 't' := by rintro rfl; cases h
  have hf : c ≠ 'f' := by rintro rfl; cases h
  have hminus : c ≠ '-' := by rintro rfl; cases h
  simp only [simpleValue, hn, ht, hf, hminus, h, if_false, if_true]

theorem takes_write {j : Json} (h : j.Fits levels) (level : Nat) (hblanks : AllBlank blanks) :
    Takes (value (levels + 1)) (blanks ++ (layout.write level j).toList) j := by
  induction h generalizing level blanks with
  | null levels =>
    intro rest hrest
    rw [List.append_assoc, toList_write_null]
    exact (value_simple hblanks rfl (by decide) (by decide) levels _).trans rfl
  | bool levels b =>
    intro rest hrest
    rw [List.append_assoc, toList_write_bool]
    cases b with
    | true => exact (value_simple hblanks rfl (by decide) (by decide) levels _).trans rfl
    | false => exact (value_simple hblanks rfl (by decide) (by decide) levels _).trans rfl
  | @word levels n hn =>
    intro rest hrest
    obtain ⟨d, ds, hdigits, hd⟩ := exists_toDigits_eq n
    have hread := number_toDigits hn hrest
    rw [hdigits, List.cons_append] at hread
    rw [List.append_assoc, toList_write_ofNat, hdigits, List.cons_append,
      value_simple hblanks (isBlank_of_isDigit hd) (by rintro rfl; cases hd)
        (by rintro rfl; cases hd), simpleValue_digit hd, bind_ok _ (piece_ok hread)]
    rfl
  | str levels s =>
    intro rest hrest
    rw [List.append_assoc, write, toList_quote, List.cons_append, List.append_assoc,
      value_simple hblanks rfl (by decide) (by decide)]
    refine (bind_ok _ (drop_cons '"' _)).trans ?_
    exact (bind_ok _ (string_quoted s rest)).trans rfl
  | @arr levels items h ih =>
    intro rest hrest
    rw [List.append_assoc]
    cases items with
    | nil =>
      rw [toList_write_arr_nil]
      exact value_list hblanks (elements_end _ (anotherElement_end _ allBlank_nil rest))
    | cons first items =>
      simp only [toList_write_arr_cons, List.cons_append, List.append_assoc, List.nil_append]
      refine value_list hblanks (elements_written (fun j => (layout.write (level + 1) j).toList)
        (layout.allBlank_gap _) (layout.allBlank_gap _) (fun j hj => ?_) rest)
      exact ⟨begins_write (h j hj), ih j hj _ allBlank_nil⟩
  | @obj levels members h ih =>
    intro rest hrest
    rw [List.append_assoc]
    cases members with
    | nil =>
      rw [toList_write_obj_nil]
      exact value_object hblanks (members_end _ (memberName_end _ allBlank_nil rest))
    | cons first members =>
      simp only [toList_write_obj_cons, List.cons_append, List.append_assoc, List.nil_append]
      refine value_object hblanks (members_written Prod.fst (layout.writeValue (level + 1))
        (layout.allBlank_gap _) (layout.allBlank_gap _) (fun m hm rest' hrest' => ?_) rest)
      exact (bind_ok _ (ih m hm _ layout.allBlank_space rest' hrest')).trans rfl

end Json.Layout

theorem Json.ofText_write (layout : Json.Layout) {j : Json} (h : j.Fits 127) :
    Json.ofText (layout.write 0 j) = .ok j := by
  have hends : Piece.EndsNumber [] := by simp [Piece.EndsNumber]
  have hvalue := layout.takes_write h 0 Scan.allBlank_nil [] hends
  rw [List.nil_append, List.append_nil] at hvalue
  have hread : (Scan.value Scan.nestingLimit <* Scan.finished) (layout.write 0 j).toList =
      .ok j [] := by
    rw [seqLeft_eq_bind]
    exact (Scan.bind_ok _ hvalue).trans rfl
  rw [ofText, Scan.run, EStateM.run, hread]

/-- What is written in either format is read as the value that it was. -/
theorem OutputFormat.ofText_render (format : OutputFormat) {j : Json} (h : j.Fits 127) :
    Json.ofText (format.render j) = .ok j := by
  cases format with
  | pretty => exact Json.ofText_write Json.Layout.pretty h
  | compact => exact Json.ofText_write Json.Layout.compact h

example : OutputFormat.pretty.render (.obj [("a", .arr [.ofNat 10, .str "\n\x01"])]) =
    "\x7b\n  \"a\": [\n    10,\n    \"\\n\\u0001\"\n  ]\n\x7d" := by
  decide +kernel

end RecordShape
