import Mathlib.Tactic.SplitIfs
import RecordShape.Json.Printer
import RecordShape.Proofs.Text.Splitting
import RecordShape.Reading.Token

/-!
# Quoted strings and whole numbers are read back

A string that was written with its quotes is read as the string that it was, whatever follows the
closing quote. The digits of a word are read as this number, unless they go on.
-/

namespace RecordShape
attribute [local instance (high)] instPowNat

/-- The number is one that a word of 64 bits stands for. -/
def IsWord (n : Nat) : Prop := n < 2 ^ (64 : Nat)

instance (n : Nat) : Decidable (IsWord n) := inferInstanceAs (Decidable (n < 2 ^ (64 : Nat)))

theorem IsWord.of_le {m n : Nat} (hn : IsWord n) (h : m ≤ n) : IsWord m := Nat.lt_of_le_of_lt h hn

namespace Piece

/-! ## Strings -/

theorem stringBody_cons {c : Char} (seen rest : List Char) (hquote : c ≠ '"') (hslash : c ≠ '\\')
    (hcontrol : ¬c.toNat < 0x20) :
    stringBody seen (c :: rest) = stringBody (c :: seen) rest := by
  rw [stringBody]
  · rw [if_neg hquote, if_neg hcontrol]
  all_goals simp [hslash]

theorem stringBody_escape_letter {c e : Char} (seen rest : List Char) (hu : c ≠ 'u')
    (hescaped : escaped? c = some e) :
    stringBody seen ('\\' :: c :: rest) = stringBody (e :: seen) rest := by
  rw [stringBody]
  · rw [hescaped]
  all_goals simp [hu]

theorem hexFour?_control : ∀ n < 0x20,
    hexFour? '0' '0' (Nat.digitChar (n / 16)) (Nat.digitChar (n % 16)) = some n := by
  decide

theorem stringBody_control {c : Char} (seen rest : List Char) (hcontrol : c.toNat < 0x20) :
    stringBody seen ('\\' :: 'u' :: '0' :: '0' :: Nat.digitChar (c.toNat / 16) ::
      Nat.digitChar (c.toNat % 16) :: rest) = stringBody (c :: seen) rest := by
  have htrailing : isTrailing c.toNat = false := by
    simp only [isTrailing, Bool.and_eq_false_iff, decide_eq_false_iff_not]
    omega
  have hleading : isLeading c.toNat = false := by
    simp only [isLeading, Bool.and_eq_false_iff, decide_eq_false_iff_not]
    omega
  rw [stringBody, hexFour?_control _ hcontrol]
  simp only [htrailing, hleading, Bool.false_eq_true, if_false, Bool.not_false, if_true,
    Char.ofNat_toNat]

theorem stringBody_escape (c : Char) (seen rest : List Char) :
    stringBody seen ((Json.escape c).toList ++ rest) = stringBody (c :: seen) rest := by
  by_cases hletter : c ∈ ['"', '\\', '\x08', '\x0c', '\n', '\r', '\t']
  · simp only [List.mem_cons, List.not_mem_nil, or_false] at hletter
    rcases hletter with rfl | rfl | rfl | rfl | rfl | rfl | rfl <;>
      exact stringBody_escape_letter seen rest (by decide) (by decide)
  · simp only [List.mem_cons, List.not_mem_nil, or_false, not_or] at hletter
    simp only [Json.escape, hletter, if_false]
    split_ifs with hcontrol
    · simpa using stringBody_control seen rest hcontrol
    · simpa using stringBody_cons seen rest hletter.1 hletter.2.1 hcontrol

theorem toList_quote (s : String) :
    (Json.quote s).toList =
      '"' :: ((s.toList.flatMap fun c => (Json.escape c).toList) ++ ['"']) := by
  have hfold (cs : List Char) (text : String) :
      (cs.foldl (fun text c => text ++ Json.escape c) text).toList =
        text.toList ++ cs.flatMap fun c => (Json.escape c).toList := by
    induction cs generalizing text with
    | nil => simp
    | cons c cs ih => simp [ih]
  rw [Json.quote, String.toList_push, hfold]
  rfl

/-- A quoted string is read back from behind its opening quote. -/
theorem stringBody_quoted (s : String) (rest : List Char) :
    stringBody [] ((s.toList.flatMap fun c => (Json.escape c).toList) ++ '"' :: rest) =
      .ok (s, rest) := by
  have hseen (cs seen : List Char) :
      stringBody seen ((cs.flatMap fun c => (Json.escape c).toList) ++ '"' :: rest) =
        .ok (String.ofList (seen.reverse ++ cs), rest) := by
    induction cs generalizing seen with
    | nil => simp [stringBody]
    | cons c cs ih =>
      rw [List.flatMap_cons, List.append_assoc, stringBody_escape, ih, List.reverse_cons,
        List.append_assoc, List.singleton_append]
  rw [hseen, List.reverse_nil, List.nil_append, String.ofList_toList]

/-! ## Whole numbers -/

theorem isDigit_eq (c : Char) : isDigit c = c.isDigit := rfl

/-- What follows a number does not go on with it. -/
def EndsNumber (rest : List Char) : Prop :=
  ∀ c ∈ rest.head?, isDigit c = false ∧ c ≠ '.' ∧ c ≠ 'e' ∧ c ≠ 'E'

theorem appendDigits_eq {digits : List Char} {n : Nat}
    (h : IsWord (Nat.ofDigitChars 10 digits n)) :
    appendDigits n digits = (Nat.ofDigitChars 10 digits n, []) := by
  induction digits generalizing n with
  | nil => rfl
  | cons c digits ih =>
    rw [Nat.ofDigitChars_cons, Nat.mul_comm] at h
    have hle (m : Nat) : m ≤ Nat.ofDigitChars 10 digits m := by
      rw [Nat.ofDigitChars_eq_ofDigitChars_zero]
      have hpos : 0 < 10 ^ digits.length := Nat.pow_pos (by decide)
      exact Nat.le_trans (Nat.le_mul_of_pos_left m hpos) (Nat.le_add_right _ _)
    have hfits : n * 10 + (c.toNat - '0'.toNat) < 2 ^ (64 : Nat) := h.of_le (hle _)
    rw [appendDigits, digitValue, if_pos hfits, ih h, Nat.ofDigitChars_cons, Nat.mul_comm 10]

theorem eq_zero_of_head?_toDigits {n : Nat} (h : (Nat.toDigits 10 n).head? = some '0') :
    n = 0 := by
  induction n using Nat.strongRecOn with
  | ind n ih =>
    by_cases hn : n < 10
    · rw [Nat.toDigits_of_lt_base hn] at h
      have hdigit : ∀ n < 10, Nat.digitChar n = '0' → n = 0 := by decide
      exact hdigit n hn (Option.some.inj h)
    · rw [Nat.toDigits_of_base_le (by decide) (Nat.le_of_not_lt hn)] at h
      obtain ⟨d, ds, hfront⟩ := List.exists_cons_of_ne_nil (@Nat.toDigits_ne_nil (n / 10) 10)
      rw [hfront] at h
      have hzero : n / 10 = 0 := ih (n / 10) (by omega) (by rw [hfront]; exact h)
      omega

theorem toDigits_ne_zero_cons (n : Nat) (c : Char) (more : List Char) :
    Nat.toDigits 10 n ≠ '0' :: c :: more := by
  intro h
  have hn : n = 0 := eq_zero_of_head?_toDigits (by rw [h, List.head?_cons])
  rw [hn, Nat.toDigits_zero] at h
  cases h

/-- The digits of a number are read back as this number. -/
theorem number_toDigits {n : Nat} (hn : IsWord n) {rest : List Char} (hrest : EndsNumber rest) :
    number false (Nat.toDigits 10 n ++ rest) = .ok (.int n, rest) := by
  have hdigits : ∀ c ∈ Nat.toDigits 10 n, isDigit c = true := fun c hc =>
    Nat.isDigit_of_mem_toDigits (by decide) (by decide) hc
  have htaken : (Nat.toDigits 10 n ++ rest).takeWhile isDigit = Nat.toDigits 10 n :=
    takeWhile_stretch hdigits fun c hc => (hrest c hc).1
  have hleft : (Nat.toDigits 10 n ++ rest).dropWhile isDigit = rest :=
    dropWhile_stretch hdigits fun c hc => (hrest c hc).1
  have happended : appendDigits 0 (Nat.toDigits 10 n) = (n, []) := by
    have h := @appendDigits_eq (Nat.toDigits 10 n) 0
    rw [Nat.ofDigitChars_ten_toDigits] at h
    exact h hn
  simp only [number, htaken, hleft]
  split
  · rename_i hnone
    exact absurd hnone Nat.toDigits_ne_nil
  · rename_i hnone
    exact absurd hnone Nat.toDigits_ne_nil
  · rename_i hzero
    exact absurd hzero (toDigits_ne_zero_cons n _ _)
  · rw [happended]
    split
    · exact absurd rfl (hrest '.' rfl).2.1
    · rename_i c _ _
      obtain ⟨-, -, he, hE⟩ := hrest c rfl
      simp [he, hE, whole]
    · rfl

end Piece
end RecordShape
