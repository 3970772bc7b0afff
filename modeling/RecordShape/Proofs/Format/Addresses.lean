import Mathlib.Computability.Language
import RecordShape.Format.Basic

/-!
# What a mail address is

An address is a name and a domain with one sign between them. The domain is split at its dots into
labels. Reading a text once, character by character, accepts exactly these texts, and so does a
regular expression for whole texts, if a dot in front and two dots in a row are ruled out besides.
-/

namespace RecordShape.Email

/-- May stand in the part before the sign. -/
abbrev IsNameChar (c : Char) : Prop := c.isAlphanum = true ∨ c ∈ ['_', '\'', '+', '-', '.']

/-- May follow the first character of a label. -/
abbrev IsLabelChar (c : Char) : Prop := c.isAlphanum = true ∨ c = '-'

/-- A name as far as it has been read: it does not start with a dot, and no two dots meet. -/
structure IsNameStart (s : List Char) : Prop where
  chars : ∀ c ∈ s, IsNameChar c
  head : s.head? ≠ some '.'
  dots : ¬['.', '.'] <:+: s

/-- The part before the sign. -/
structure IsName (s : List Char) : Prop extends IsNameStart s where
  nonempty : s ≠ []
  last_dot : s.getLast? ≠ some '.'
  last_apostrophe : s.getLast? ≠ some '\''

/-- A label with more labels to come. -/
structure IsLabel (s : List Char) : Prop where
  first : ∃ c ∈ s.head?, c.isAlphanum = true
  others : ∀ c ∈ s.tail, IsLabelChar c

/-- The last label. -/
structure IsTop (s : List Char) : Prop where
  length_le : 2 ≤ s.length
  letters : ∀ c ∈ s, c.isAlpha = true

/-- The part after the sign, which has two labels at least. -/
def IsDomain (s : List Char) : Prop :=
  ∃ labels top, s.splitOn '.' = labels ++ [top] ∧ labels ≠ [] ∧ (∀ label ∈ labels, IsLabel label) ∧
    IsTop top

/-- One sign splits the text into a name and a domain. -/
def IsAddress (s : List Char) : Prop :=
  ∃ before after, s.splitOn '@' = [before, after] ∧ IsName before ∧ IsDomain after

/-! A text that is split is put together from its parts. -/

/-- Parts with a separator after each of them, and a last one. -/
def joined (a : Char) (parts : List (List Char)) (last : List Char) : List Char :=
  parts.flatMap (· ++ [a]) ++ last

theorem joined_cons (a : Char) (part : List Char) (parts : List (List Char)) (last : List Char) :
    joined a (part :: parts) last = part ++ a :: joined a parts last := by
  simp [joined]

theorem splitOn_joined {a : Char} {parts : List (List Char)} {last : List Char}
    (hparts : ∀ part ∈ parts, a ∉ part) (hlast : a ∉ last) :
    (joined a parts last).splitOn a = parts ++ [last] := by
  induction parts with
  | nil => exact List.splitOn_eq_singleton hlast
  | cons part parts ih =>
    obtain ⟨hpart, hothers⟩ := List.forall_mem_cons.mp hparts
    rw [joined_cons, List.splitOn_append_cons_self_of_not_mem hpart, ih hothers]
    rfl

theorem exists_joined (a : Char) (s : List Char) :
    ∃ parts last, s = joined a parts last ∧ (∀ part ∈ parts, a ∉ part) ∧ a ∉ last := by
  induction hlen : s.length using Nat.strongRecOn generalizing s with
  | ind len ih =>
    by_cases ha : a ∈ s
    · obtain ⟨part, rest, rfl, hpart⟩ := List.eq_append_cons_of_mem ha
      have hshorter : rest.length < len := by
        rw [← hlen]
        simp
        omega
      obtain ⟨parts, last, rfl, hparts, hlast⟩ := ih rest.length hshorter rest rfl
      refine ⟨part :: parts, last, (joined_cons a part parts last).symm, ?_, hlast⟩
      exact List.forall_mem_cons.mpr ⟨hpart, hparts⟩
    · exact ⟨[], s, rfl, by simp, ha⟩

theorem splitOn_eq_iff {a : Char} {s : List Char} {parts : List (List Char)} {last : List Char} :
    s.splitOn a = parts ++ [last] ↔
      s = joined a parts last ∧ (∀ part ∈ parts, a ∉ part) ∧ a ∉ last := by
  constructor
  · intro hsplit
    obtain ⟨parts', last', rfl, hparts, hlast⟩ := exists_joined a s
    rw [splitOn_joined hparts hlast] at hsplit
    obtain ⟨rfl, hsame⟩ := List.append_inj' hsplit rfl
    cases hsame
    exact ⟨rfl, hparts, hlast⟩
  · intro h
    obtain ⟨rfl, hparts, hlast⟩ := h
    exact splitOn_joined hparts hlast

theorem isLetter_eq (c : Char) : isLetter c = c.isAlpha := by
  have hupper : c.isUpper = ('A' ≤ c && c ≤ 'Z') := Bool.decide_and _ _
  calc
    isLetter c = (c.isLower || c.isUpper) := by
      rw [hupper]
      rfl
    _ = c.isAlpha := Bool.or_comm _ _

theorem isDigit_eq (c : Char) : isDigit c = c.isDigit := rfl

theorem endsName_iff {c : Char} :
    endsName c = true ↔ c.isAlphanum = true ∨ c ∈ ['_', '+', '-'] := by
  simp [endsName, isLetter_eq, isDigit_eq, Char.isAlphanum, or_assoc]

theorem isNameChar_iff {c : Char} : IsNameChar c ↔ endsName c = true ∨ c = '\'' ∨ c = '.' := by
  rw [endsName_iff, or_assoc]
  apply or_congr_right
  simp only [List.mem_cons, List.not_mem_nil, or_false, or_assoc]
  rw [@or_left_comm (c = '\''), @or_left_comm (c = '\'')]

theorem letterOrDigit_eq (c : Char) : (isLetter c || isDigit c) = c.isAlphanum := by
  rw [isLetter_eq, isDigit_eq]
  rfl

/-! The name, of which a part has been read when the rest is at hand. -/

theorem IsNameStart.nil : IsNameStart [] := ⟨by simp, by simp, by simp⟩

theorem IsNameStart.of_append {s rest : List Char} (h : IsNameStart (s ++ rest)) :
    IsNameStart s where
  chars c hc := h.chars c (List.mem_append_left _ hc)
  head hhead := h.head (by simp [List.head?_append, hhead])
  dots hdots := h.dots (hdots.trans (List.prefix_append s rest).isInfix)

theorem isNameStart_concat_iff {s : List Char} (hs : IsNameStart s) (c : Char) :
    IsNameStart (s ++ [c]) ↔
      if c = '.' then ∃ last ∈ s.getLast?, last ≠ '.' else endsName c = true ∨ c = '\'' := by
  have hdots : ['.', '.'] <:+: s ++ [c] ↔ s.getLast? = some '.' ∧ '.' = c := by
    have hsplit : ['.', '.'] = ['.'] ++ ['.'] := rfl
    rw [List.infix_concat_iff, or_iff_left hs.dots, hsplit,
      List.suffix_append_inj_of_length_eq (List.length_singleton.trans List.length_singleton.symm),
      List.singleton_suffix_iff_getLast?_eq_some]
    simp
  have hchars : (∀ d ∈ s ++ [c], IsNameChar d) ↔ IsNameChar c := by
    rw [List.forall_mem_append, and_iff_right hs.chars]
    simp
  have hhead : (s ++ [c]).head? = some '.' ↔ s.getLast? = none ∧ '.' = c := by
    cases s with
    | nil => simp [eq_comm]
    | cons first rest => simpa using fun h => hs.head (congrArg some h)
  have hiff : IsNameStart (s ++ [c]) ↔
      IsNameChar c ∧ ¬(s.getLast? = none ∧ '.' = c) ∧ ¬(s.getLast? = some '.' ∧ '.' = c) := by
    rw [← hchars, ← hhead, ← hdots]
    exact ⟨fun h => ⟨h.chars, h.head, h.dots⟩, fun h => ⟨h.1, h.2.1, h.2.2⟩⟩
  rw [hiff, isNameChar_iff]
  split_ifs with hc
  · subst hc
    cases s.getLast? <;> simp
  · simp [hc, Ne.symm hc]

theorem isName_iff {s : List Char} (hs : IsNameStart s) :
    IsName s ↔ s.getLast?.any endsName = true := by
  rcases List.eq_nil_or_concat s with rfl | ⟨start, last, rfl⟩
  · exact iff_of_false (fun h => h.nonempty rfl) (by simp)
  have hlast := hs.chars last (by simp)
  have hends : endsName last = true ↔ last ≠ '.' ∧ last ≠ '\'' := by
    constructor
    · intro h
      constructor <;> rintro rfl <;> revert h <;> decide
    · intro h
      obtain ⟨hdot, hapostrophe⟩ := h
      simpa [isNameChar_iff, hdot, hapostrophe] using hlast
  simp only [List.concat_eq_append, List.getLast?_append, List.getLast?_singleton, Option.some_or,
    Option.any_some, hends]
  constructor
  · intro h
    exact ⟨fun heq => h.last_dot (by simp [heq]), fun heq => h.last_apostrophe (by simp [heq])⟩
  · intro h
    obtain ⟨hdot, hapostrophe⟩ := h
    rw [← List.concat_eq_append]
    exact ⟨hs, by simp, by simpa using hdot, by simpa using hapostrophe⟩

theorem not_isNameStart_sign {s rest : List Char} : ¬IsNameStart (s ++ '@' :: rest) := by
  intro h
  have hsign := h.chars '@' (by simp)
  exact absurd hsign (by decide)

theorem name_eq_true_iff {before : List Char} (hbefore : IsNameStart before) (s : List Char) :
    name before.getLast? s = true ↔ ∃ between after, s = between ++ '@' :: after ∧
      IsName (before ++ between) ∧ label false after = true := by
  induction s generalizing before with
  | nil => simp [name]
  | cons c rest ih =>
    by_cases hsign : c = '@'
    · subst hsign
      rw [name, if_pos rfl, Bool.and_eq_true, ← isName_iff hbefore]
      constructor
      · intro h
        obtain ⟨hname, hdomain⟩ := h
        exact ⟨[], rest, rfl, by simpa using hname, hdomain⟩
      · intro h
        obtain ⟨between, after, heq, hname, hdomain⟩ := h
        cases between with
        | nil =>
          cases heq
          exact ⟨by simpa using hname, hdomain⟩
        | cons first between =>
          cases heq
          exact absurd hname.toIsNameStart not_isNameStart_sign
    have hlast : (before ++ [c]).getLast? = some c := by simp
    have hstep : name before.getLast? (c :: rest) = true ↔
        IsNameStart (before ++ [c]) ∧ name (some c) rest = true := by
      rw [name, if_neg hsign, isNameStart_concat_iff hbefore]
      split_ifs with hdot
      · simp [Option.any_eq_true]
      · simp
    rw [hstep]
    constructor
    · intro h
      obtain ⟨hstart, hrest⟩ := h
      rw [← hlast] at hrest
      obtain ⟨between, after, rfl, hname, hdomain⟩ := (ih hstart).mp hrest
      exact ⟨c :: between, after, rfl, by simpa using hname, hdomain⟩
    · intro h
      obtain ⟨between, after, heq, hname, hdomain⟩ := h
      cases between with
      | nil =>
        cases heq
        exact absurd rfl hsign
      | cons first between =>
        cases heq
        have hjoin : before ++ c :: between = before ++ [c] ++ between := by simp
        rw [hjoin] at hname
        have hstart := hname.toIsNameStart.of_append
        rw [← hlast]
        exact ⟨hstart, (ih hstart).mpr ⟨between, after, rfl, hname, hdomain⟩⟩

/-! The domain, label by label. -/

theorem labelRest_append_dot (dotted letters : Bool) (count : Nat) {s : List Char}
    (hs : '.' ∉ s) (rest : List Char) :
    labelRest dotted letters count (s ++ '.' :: rest) = true ↔
      (∀ c ∈ s, IsLabelChar c) ∧ label true rest = true := by
  induction s generalizing letters count with
  | nil => simp [labelRest]
  | cons c s ih =>
    obtain ⟨hc, hs⟩ := not_or.mp (mt List.mem_cons.mpr hs)
    rw [List.cons_append, labelRest, if_neg (Ne.symm hc), letterOrDigit_eq, Bool.and_eq_true,
      ih _ _ hs, List.forall_mem_cons]
    simp [and_assoc]

theorem labelRest_eq_true_iff {dotted letters : Bool} {count : Nat} {s : List Char}
    (hs : '.' ∉ s) :
    labelRest dotted letters count s = true ↔
      dotted = true ∧ letters = true ∧ 2 ≤ count + s.length ∧ ∀ c ∈ s, c.isAlpha = true := by
  induction s generalizing letters count with
  | nil => simp [labelRest, and_assoc]
  | cons c s ih =>
    obtain ⟨hc, hs⟩ := not_or.mp (mt List.mem_cons.mpr hs)
    rw [labelRest, if_neg (Ne.symm hc), letterOrDigit_eq, Bool.and_eq_true,
      ih hs, List.forall_mem_cons, Bool.and_eq_true, isLetter_eq, List.length_cons]
    have hcount : count + 1 + s.length = count + (s.length + 1) := by omega
    have hletter (h : c.isAlpha = true) : c.isAlphanum = true := by simp [Char.isAlphanum, h]
    rw [hcount]
    constructor
    · intro h
      obtain ⟨-, hdotted, ⟨hletters, hc⟩, hlength, hs⟩ := h
      exact ⟨hdotted, hletters, hlength, hc, hs⟩
    · intro h
      obtain ⟨hdotted, hletters, hlength, hc, hs⟩ := h
      exact ⟨by rw [hletter hc]; rfl, hdotted, ⟨hletters, hc⟩, hlength, hs⟩

theorem label_dot (dotted : Bool) (rest : List Char) : label dotted ('.' :: rest) = false := rfl

theorem label_append_dot (dotted : Bool) {s : List Char} (hs : '.' ∉ s) (rest : List Char) :
    label dotted (s ++ '.' :: rest) = true ↔ IsLabel s ∧ label true rest = true := by
  cases s with
  | nil =>
    apply iff_of_false (by simp [label_dot])
    intro h
    obtain ⟨c, hc, -⟩ := h.1.first
    cases hc
  | cons c s =>
    obtain ⟨-, hs⟩ := not_or.mp (mt List.mem_cons.mpr hs)
    rw [List.cons_append, label, letterOrDigit_eq, Bool.and_eq_true, labelRest_append_dot _ _ _ hs]
    constructor
    · intro h
      obtain ⟨hc, hothers, hrest⟩ := h
      exact ⟨⟨⟨c, rfl, hc⟩, hothers⟩, hrest⟩
    · intro h
      obtain ⟨hlabel, hrest⟩ := h
      obtain ⟨d, hd, hc⟩ := hlabel.first
      cases hd
      exact ⟨hc, hlabel.others, hrest⟩

theorem label_eq_true_iff {dotted : Bool} {s : List Char} (hs : '.' ∉ s) :
    label dotted s = true ↔ dotted = true ∧ IsTop s := by
  cases s with
  | nil =>
    apply iff_of_false (by simp [label])
    intro h
    have hlength := h.2.length_le
    simp at hlength
  | cons c s =>
    obtain ⟨-, hs⟩ := not_or.mp (mt List.mem_cons.mpr hs)
    rw [label, letterOrDigit_eq, Bool.and_eq_true, labelRest_eq_true_iff hs, isLetter_eq]
    constructor
    · intro h
      obtain ⟨-, hdotted, hc, hlength, hs⟩ := h
      refine ⟨hdotted, ?_, List.forall_mem_cons.mpr ⟨hc, hs⟩⟩
      rw [List.length_cons]
      omega
    · intro h
      obtain ⟨hdotted, htop⟩ := h
      have hlength := htop.length_le
      obtain ⟨hc, hs⟩ := List.forall_mem_cons.mp htop.letters
      rw [List.length_cons] at hlength
      exact ⟨by simp [Char.isAlphanum, hc], hdotted, hc, by omega, hs⟩

theorem label_joined {labels : List (List Char)} {top : List Char}
    (hlabels : ∀ s ∈ labels, '.' ∉ s) (htop : '.' ∉ top) (dotted : Bool) :
    label dotted (joined '.' labels top) = true ↔
      (dotted = true ∨ labels ≠ []) ∧ (∀ s ∈ labels, IsLabel s) ∧ IsTop top := by
  induction labels generalizing dotted with
  | nil => simp [joined, label_eq_true_iff htop]
  | cons s labels ih =>
    obtain ⟨hs, hothers⟩ := List.forall_mem_cons.mp hlabels
    rw [joined_cons, label_append_dot dotted hs, ih hothers, List.forall_mem_cons]
    simp [and_assoc]

theorem label_false_eq_true_iff (s : List Char) : label false s = true ↔ IsDomain s := by
  obtain ⟨labels, top, rfl, hlabels, htop⟩ := exists_joined '.' s
  rw [label_joined hlabels htop, IsDomain, splitOn_joined hlabels htop]
  constructor
  · intro h
    obtain ⟨hsome, hgood, htop⟩ := h
    exact ⟨labels, top, rfl, by simpa using hsome, hgood, htop⟩
  · intro h
    obtain ⟨labels', top', heq, hsome, hgood, htop⟩ := h
    obtain ⟨rfl, hsame⟩ := List.append_inj' heq rfl
    cases hsame
    exact ⟨.inr hsome, hgood, htop⟩

theorem IsName.sign_not_mem {s : List Char} (h : IsName s) : '@' ∉ s :=
  mt (h.chars '@') (by decide)

theorem IsLabel.chars {s : List Char} (h : IsLabel s) : ∀ c ∈ s, IsLabelChar c := by
  obtain ⟨c, hc, hfirst⟩ := h.first
  cases s with
  | nil => cases hc
  | cons d s =>
    cases hc
    exact List.forall_mem_cons.mpr ⟨.inl hfirst, h.others⟩

theorem IsDomain.sign_not_mem {s : List Char} (h : IsDomain s) : '@' ∉ s := by
  obtain ⟨labels, top, hsplit, -, hlabels, htop⟩ := h
  obtain ⟨rfl, -⟩ := splitOn_eq_iff.mp hsplit
  intro hsign
  rcases List.mem_append.mp hsign with hsign | hsign
  · obtain ⟨label, hlabel, hsign⟩ := List.mem_flatMap.mp hsign
    rcases List.mem_append.mp hsign with hsign | hsign
    · exact absurd ((hlabels label hlabel).chars '@' hsign) (by decide)
    · exact absurd hsign (by decide)
  · exact absurd (htop.letters '@' hsign) (by decide)

/-- An address is a name and a domain with a sign between them. -/
theorem isAddress_iff {s : List Char} :
    IsAddress s ↔ ∃ before after, s = before ++ '@' :: after ∧ IsName before ∧ IsDomain after := by
  apply exists₂_congr
  intro before after
  have hsplit : s.splitOn '@' = [before, after] ↔
      s = joined '@' [before] after ∧ (∀ part ∈ [before], '@' ∉ part) ∧ '@' ∉ after :=
    @splitOn_eq_iff '@' s [before] after
  have hjoined : joined '@' [before] after = before ++ '@' :: after := by simp [joined]
  rw [hsplit, hjoined]
  constructor
  · intro h
    obtain ⟨⟨hs, -⟩, hname, hdomain⟩ := h
    exact ⟨hs, hname, hdomain⟩
  · intro h
    obtain ⟨hs, hname, hdomain⟩ := h
    refine ⟨⟨hs, ?_, hdomain.sign_not_mem⟩, hname, hdomain⟩
    simpa using hname.sign_not_mem

/-- Reading a text once accepts the addresses. -/
theorem isAddress_eq_true_iff (s : String) : isAddress s = true ↔ IsAddress s.toList := by
  have hread := name_eq_true_iff .nil s.toList
  rw [List.getLast?_nil] at hread
  rw [isAddress, hread, isAddress_iff]
  simp only [List.nil_append, label_false_eq_true_iff]

/-! The regular expression. -/

section
open Computability

/-- One character of a class. -/
def oneOf (p : Char → Prop) : Language Char := {s | ∃ c, p c ∧ s = [c]}

/-- Once or several times. -/
def several (l : Language Char) : Language Char := l * l∗

/-- Characters of a name, and one that may end it. -/
def namePattern : Language Char :=
  (oneOf IsNameChar)∗ * oneOf fun c => c.isAlphanum = true ∨ c ∈ ['_', '+', '-']

/-- A label and a dot. -/
def labelPattern : Language Char :=
  oneOf (fun c => c.isAlphanum = true) * (oneOf IsLabelChar)∗ * oneOf (· = '.')

/-- Two letters or more. -/
def topPattern : Language Char :=
  oneOf (fun c => c.isAlpha = true) * oneOf (fun c => c.isAlpha = true) *
    (oneOf fun c => c.isAlpha = true)∗

def pattern : Language Char := namePattern * (oneOf (· = '@') * (several labelPattern * topPattern))

variable {p : Char → Prop} {s : List Char}

theorem mem_kstar_oneOf : s ∈ (oneOf p)∗ ↔ ∀ c ∈ s, p c := by
  rw [Language.mem_kstar]
  constructor
  · intro h c hc
    obtain ⟨parts, rfl, hparts⟩ := h
    obtain ⟨part, hpart, hc⟩ := List.mem_flatten.mp hc
    obtain ⟨d, hd, rfl⟩ := hparts part hpart
    rwa [List.mem_singleton.mp hc]
  · intro h
    refine ⟨s.map fun c => [c], ?_, fun part hpart => ?_⟩
    · rw [← List.flatMap_def, List.flatMap_singleton']
    obtain ⟨c, hc, rfl⟩ := List.mem_map.mp hpart
    exact ⟨c, h c hc, rfl⟩

theorem mem_oneOf_mul {l : Language Char} :
    s ∈ oneOf p * l ↔ ∃ c rest, s = c :: rest ∧ p c ∧ rest ∈ l := by
  rw [Language.mem_mul]
  constructor
  · intro h
    obtain ⟨_, ⟨c, hc, rfl⟩, rest, hrest, rfl⟩ := h
    exact ⟨c, rest, rfl, hc, hrest⟩
  · intro h
    obtain ⟨c, rest, rfl, hc, hrest⟩ := h
    exact ⟨[c], ⟨c, hc, rfl⟩, rest, hrest, rfl⟩

theorem mem_mul_oneOf {l : Language Char} :
    s ∈ l * oneOf p ↔ ∃ start c, s = start ++ [c] ∧ start ∈ l ∧ p c := by
  rw [Language.mem_mul]
  constructor
  · intro h
    obtain ⟨start, hstart, _, ⟨c, hc, rfl⟩, rfl⟩ := h
    exact ⟨start, c, rfl, hstart, hc⟩
  · intro h
    obtain ⟨start, c, rfl, hstart, hc⟩ := h
    exact ⟨start, hstart, [c], ⟨c, hc, rfl⟩, rfl⟩

theorem mem_several {l : Language Char} :
    s ∈ several l ↔ ∃ parts, parts ≠ [] ∧ s = parts.flatten ∧ ∀ part ∈ parts, part ∈ l := by
  rw [several, Language.mem_mul]
  constructor
  · intro h
    obtain ⟨first, hfirst, others, hothers, rfl⟩ := h
    obtain ⟨parts, rfl, hparts⟩ := Language.mem_kstar.mp hothers
    exact ⟨first :: parts, by simp, rfl, List.forall_mem_cons.mpr ⟨hfirst, hparts⟩⟩
  · intro h
    obtain ⟨_ | ⟨first, parts⟩, hne, rfl, hparts⟩ := h
    · exact absurd rfl hne
    · obtain ⟨hfirst, hparts⟩ := List.forall_mem_cons.mp hparts
      exact ⟨first, hfirst, _, Language.mem_kstar.mpr ⟨parts, rfl, hparts⟩, rfl⟩

theorem mem_labelPattern : s ∈ labelPattern ↔ ∃ label, s = label ++ ['.'] ∧ IsLabel label := by
  rw [labelPattern, mem_mul_oneOf]
  constructor
  · intro h
    obtain ⟨label, c, rfl, hlabel, rfl⟩ := h
    obtain ⟨first, others, rfl, hfirst, hothers⟩ := mem_oneOf_mul.mp hlabel
    exact ⟨_, rfl, ⟨first, rfl, hfirst⟩, mem_kstar_oneOf.mp hothers⟩
  · intro h
    obtain ⟨label, rfl, hlabel⟩ := h
    refine ⟨label, '.', rfl, mem_oneOf_mul.mpr ?_, rfl⟩
    obtain ⟨c, hc, hfirst⟩ := hlabel.first
    cases label with
    | nil => cases hc
    | cons d label =>
      cases hc
      exact ⟨_, label, rfl, hfirst, mem_kstar_oneOf.mpr hlabel.others⟩

theorem mem_topPattern : s ∈ topPattern ↔ IsTop s := by
  rw [topPattern, mul_assoc, mem_oneOf_mul]
  constructor
  · intro h
    obtain ⟨first, rest, rfl, hfirst, hrest⟩ := h
    obtain ⟨second, others, rfl, hsecond, hothers⟩ := mem_oneOf_mul.mp hrest
    refine ⟨by simp, ?_⟩
    rw [List.forall_mem_cons, List.forall_mem_cons]
    exact ⟨hfirst, hsecond, mem_kstar_oneOf.mp hothers⟩
  · intro h
    rcases s with _ | ⟨first, _ | ⟨second, others⟩⟩
    · exact absurd h.length_le (by simp)
    · exact absurd h.length_le (by simp)
    · have hletters := h.letters
      rw [List.forall_mem_cons, List.forall_mem_cons] at hletters
      obtain ⟨hfirst, hsecond, hothers⟩ := hletters
      refine ⟨first, _, rfl, hfirst, mem_oneOf_mul.mpr ⟨second, others, rfl, hsecond, ?_⟩⟩
      exact mem_kstar_oneOf.mpr hothers

private theorem exists_labels {parts : List (List Char)} (h : ∀ part ∈ parts, part ∈ labelPattern) :
    ∃ labels : List (List Char), parts = labels.map (· ++ ['.']) ∧
      ∀ label ∈ labels, IsLabel label := by
  induction parts with
  | nil => exact ⟨[], rfl, by simp⟩
  | cons part parts ih =>
    obtain ⟨hpart, hparts⟩ := List.forall_mem_cons.mp h
    obtain ⟨label, rfl, hlabel⟩ := mem_labelPattern.mp hpart
    obtain ⟨labels, rfl, hlabels⟩ := ih hparts
    exact ⟨label :: labels, rfl, List.forall_mem_cons.mpr ⟨hlabel, hlabels⟩⟩

theorem IsLabel.dot_not_mem (h : IsLabel s) : '.' ∉ s := mt (h.chars '.') (by decide)

theorem IsTop.dot_not_mem (h : IsTop s) : '.' ∉ s := mt (h.letters '.') (by decide)

theorem mem_domainPattern : s ∈ several labelPattern * topPattern ↔ IsDomain s := by
  rw [Language.mem_mul]
  constructor
  · intro h
    obtain ⟨before, hbefore, top, htop, rfl⟩ := h
    obtain ⟨parts, hne, rfl, hparts⟩ := mem_several.mp hbefore
    obtain ⟨labels, rfl, hlabels⟩ := exists_labels hparts
    rw [mem_topPattern] at htop
    refine ⟨labels, top, ?_, by simpa using hne, hlabels, htop⟩
    exact splitOn_joined (fun label hlabel => (hlabels label hlabel).dot_not_mem) htop.dot_not_mem
  · intro h
    obtain ⟨labels, top, hsplit, hne, hlabels, htop⟩ := h
    obtain ⟨rfl, -⟩ := splitOn_eq_iff.mp hsplit
    refine ⟨_, mem_several.mpr ⟨labels.map (· ++ ['.']), by simpa using hne, rfl, ?_⟩, top,
      mem_topPattern.mpr htop, rfl⟩
    intro part hpart
    obtain ⟨label, hlabel, rfl⟩ := List.mem_map.mp hpart
    exact mem_labelPattern.mpr ⟨label, rfl, hlabels label hlabel⟩

theorem mem_pattern : s ∈ pattern ↔
    ∃ before after, s = before ++ '@' :: after ∧ before ∈ namePattern ∧ IsDomain after := by
  rw [pattern, Language.mem_mul]
  constructor
  · intro h
    obtain ⟨before, hbefore, rest, hrest, rfl⟩ := h
    obtain ⟨_, after, rfl, rfl, hafter⟩ := mem_oneOf_mul.mp hrest
    exact ⟨before, after, rfl, hbefore, mem_domainPattern.mp hafter⟩
  · intro h
    obtain ⟨before, after, rfl, hbefore, hafter⟩ := h
    refine ⟨before, hbefore, '@' :: after, mem_oneOf_mul.mpr ⟨'@', after, rfl, rfl, ?_⟩, rfl⟩
    exact mem_domainPattern.mpr hafter

/-- The pattern of a name does not mind where the dots are, but for the last character. -/
theorem mem_namePattern :
    s ∈ namePattern ↔ (∀ c ∈ s, IsNameChar c) ∧ s.getLast?.any endsName = true := by
  rw [namePattern, mem_mul_oneOf]
  constructor
  · intro h
    obtain ⟨start, last, rfl, hstart, hlast⟩ := h
    rw [List.forall_mem_append]
    refine ⟨⟨mem_kstar_oneOf.mp hstart, ?_⟩, by simpa using endsName_iff.mpr hlast⟩
    intro c hc
    obtain rfl := List.mem_singleton.mp hc
    exact isNameChar_iff.mpr (.inl (endsName_iff.mpr hlast))
  · intro h
    obtain ⟨hchars, hlast⟩ := h
    rcases List.eq_nil_or_concat s with rfl | ⟨start, last, rfl⟩
    · simp at hlast
    · rw [List.concat_eq_append, List.forall_mem_append] at hchars
      rw [List.concat_eq_append, List.getLast?_append, List.getLast?_singleton, Option.some_or,
        Option.any_some] at hlast
      exact ⟨start, last, List.concat_eq_append, mem_kstar_oneOf.mpr hchars.1,
        endsName_iff.mp hlast⟩

theorem label_dots_ne_true (dotted : Bool) (start rest : List Char) :
    label dotted (start ++ '.' :: '.' :: rest) ≠ true := by
  induction hlen : start.length using Nat.strongRecOn generalizing start dotted with
  | ind len ih =>
    by_cases hdot : '.' ∈ start
    · obtain ⟨first, later, rfl, hfirst⟩ := List.eq_append_cons_of_mem hdot
      have hshorter : later.length < len := by
        rw [← hlen]
        simp
        omega
      rw [List.append_assoc, List.cons_append, Ne, label_append_dot dotted hfirst]
      exact fun h => ih later.length hshorter true later rfl h.2
    · rw [Ne, label_append_dot dotted hdot, label_dot]
      exact fun h => absurd h.2 (by decide)

theorem IsDomain.dots (h : IsDomain s) : ¬['.', '.'] <:+: s := by
  intro hdots
  obtain ⟨start, rest, rfl⟩ := hdots
  rw [← label_false_eq_true_iff, List.append_assoc] at h
  exact label_dots_ne_true false start rest h

theorem isAddress_iff_mem_pattern :
    IsAddress s ↔ s.head? ≠ some '.' ∧ ¬['.', '.'] <:+: s ∧ s ∈ pattern := by
  rw [isAddress_iff, mem_pattern]
  constructor
  · intro h
    obtain ⟨before, after, rfl, hname, hdomain⟩ := h
    have hhead : (before ++ '@' :: after).head? = before.head? := by
      obtain ⟨c, rest, rfl⟩ := List.exists_cons_of_ne_nil hname.nonempty
      rfl
    refine ⟨hhead ▸ hname.head, ?_, before, after, rfl, ?_, hdomain⟩
    · rw [List.infix_append_iff, List.infix_cons_iff]
      rintro (h | (h | h) | ⟨front, back, heq, hfront, hback⟩)
      · exact hname.dots h
      · simp at h
      · exact hdomain.dots h
      · cases back with
        | nil =>
          rw [List.append_nil] at heq
          exact hname.dots (heq ▸ hfront.isInfix)
        | cons c back =>
          obtain ⟨rfl, -⟩ := List.cons_prefix_cons.mp hback
          have hsign : '@' ∈ ['.', '.'] := by simp [heq]
          exact absurd hsign (by decide)
    · exact mem_namePattern.mpr ⟨hname.chars, (isName_iff hname.toIsNameStart).mp hname⟩
  · intro h
    obtain ⟨hhead, hdots, before, after, rfl, hbefore, hdomain⟩ := h
    obtain ⟨hchars, hlast⟩ := mem_namePattern.mp hbefore
    have hstart : IsNameStart before := by
      refine ⟨hchars, fun hdot => hhead ?_, fun h => hdots ?_⟩
      · rw [List.head?_append, hdot]
        rfl
      · exact h.trans (List.prefix_append _ _).isInfix
    exact ⟨before, after, rfl, (isName_iff hstart).mpr hlast, hdomain⟩

end

/-- The format of mail addresses accepts the texts with one sign that splits them into a name and a
domain. They are the texts that match the pattern from end to end, start with no dot and have no
two dots in a row. -/
theorem email_accepts_iff (s : String) :
    (StringFormat.email.accepts s = true ↔ IsAddress s.toList) ∧
    (StringFormat.email.accepts s = true ↔
      s.toList.head? ≠ some '.' ∧ ¬['.', '.'] <:+: s.toList ∧ s.toList ∈ pattern) := by
  rw [← isAddress_iff_mem_pattern]
  exact ⟨isAddress_eq_true_iff s, isAddress_eq_true_iff s⟩

end RecordShape.Email
