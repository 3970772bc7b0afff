import Mathlib.Tactic.IntervalCases
import RecordShape.Format.Basic

/-!
# What a date is

A date is written with four digits for the year, two for the month and two for the day, and names a
day of the Gregorian calendar, which is taken to go back to the year zero. A pattern that knows
digits of other scripts and a reader that is generous about blanks and signs accept the same texts
if both have to agree.
-/

namespace RecordShape.Calendar

/-- Every fourth year is a leap year, but of the hundreds only every fourth. -/
def IsLeap (year : Nat) : Prop := 4 ∣ year ∧ (100 ∣ year → 400 ∣ year)

instance (year : Nat) : Decidable (IsLeap year) := inferInstanceAs (Decidable (_ ∧ _))

def daysIn (year month : Nat) : Nat :=
  if month = 2 then if IsLeap year then 29 else 28
  else if month ∈ [4, 6, 9, 11] then 30
  else 31

/-- The calendar has such a day. -/
structure HasDay (year month day : Nat) : Prop where
  month_pos : 1 ≤ month
  month_le : month ≤ 12
  day_pos : 1 ≤ day
  day_le : day ≤ daysIn year month

/-- Four, two and two characters of a class, with dashes between them. -/
structure Padded (p : Char → Prop) (year month day : List Char) : Prop where
  year_length : year.length = 4
  month_length : month.length = 2
  day_length : day.length = 2
  chars : ∀ c ∈ year ++ month ++ day, p c

/-- The text with dashes between the parts. -/
def dashed (year month day : List Char) : List Char := year ++ '-' :: (month ++ '-' :: day)

def number (digits : List Char) : Nat := Nat.ofDigitChars 10 digits 0

/-- A day of the calendar, written in full. -/
def IsWrittenDate (s : List Char) : Prop :=
  ∃ year month day, s = dashed year month day ∧ Padded (fun c => c.isDigit = true) year month day ∧
    HasDay (number year) (number month) (number day)

theorem isLeapYear_eq_true_iff (year : Nat) : isLeapYear year = true ↔ IsLeap year := by
  simp only [isLeapYear, IsLeap, Bool.and_eq_true, Bool.or_eq_true, decide_eq_true_eq]
  omega

theorem getD_monthLengths {year month : Nat} (hpos : 1 ≤ month) (hle : month ≤ 12) :
    (monthLengths year).getD (month - 1) 0 = daysIn year month := by
  have hleap : (if isLeapYear year = true then 29 else 28) = if IsLeap year then 29 else 28 := by
    simp only [isLeapYear_eq_true_iff]
  unfold monthLengths
  rw [hleap]
  interval_cases month <;> rfl

theorem getD_monthLengths_of_lt {year month : Nat} (h : 12 < month) :
    (monthLengths year).getD (month - 1) 0 = 0 := by
  have hlength : (monthLengths year).length ≤ month - 1 := by
    change 12 ≤ month - 1
    omega
  rw [List.getD_eq_getElem?_getD, List.getElem?_eq_none hlength]
  rfl

theorem isDay_eq_true_iff (year month day : Nat) :
    isDay year month day = true ↔ HasDay year month day := by
  simp only [isDay, Bool.and_eq_true, decide_eq_true_eq]
  constructor
  · intro h
    obtain ⟨⟨hmonth, hday⟩, hle⟩ := h
    have hmonth_le : month ≤ 12 := by
      by_contra hgt
      rw [getD_monthLengths_of_lt (by omega)] at hle
      omega
    rw [getD_monthLengths hmonth hmonth_le] at hle
    exact ⟨hmonth, hmonth_le, hday, hle⟩
  · intro h
    rw [getD_monthLengths h.month_pos h.month_le]
    exact ⟨⟨h.month_pos, h.day_pos⟩, h.day_le⟩

theorem digit?_eq_some_iff {c : Char} {d : Nat} :
    digit? c = some d ↔ c.isDigit = true ∧ c.toNat - '0'.toNat = d := by
  have hdigit : c.isDigit = true ↔ '0' ≤ c ∧ c ≤ '9' := by
    simp [Char.isDigit, Char.le_def]
  unfold digit?
  rw [hdigit]
  split <;> simp_all

theorem number?_eq_some_iff {n value result : Nat} {s rest : List Char} :
    number? value n s = some (result, rest) ↔ ∃ digits, s = digits ++ rest ∧ digits.length = n ∧
      (∀ c ∈ digits, c.isDigit = true) ∧ Nat.ofDigitChars 10 digits value = result := by
  induction n generalizing value s with
  | zero =>
    constructor
    · intro h
      cases h
      exact ⟨[], rfl, rfl, by simp, rfl⟩
    · intro h
      obtain ⟨digits, rfl, hlength, -, rfl⟩ := h
      obtain rfl := List.length_eq_zero_iff.mp hlength
      rfl
  | succ n ih =>
    constructor
    · intro h
      cases s with
      | nil => cases h
      | cons c s =>
        obtain ⟨d, hd, hrest⟩ := Option.bind_eq_some_iff.mp h
        obtain ⟨hc, rfl⟩ := digit?_eq_some_iff.mp hd
        obtain ⟨digits, rfl, hlength, hdigits, hvalue⟩ := ih.mp hrest
        refine ⟨c :: digits, rfl, ?_, List.forall_mem_cons.mpr ⟨hc, hdigits⟩, ?_⟩
        · rw [List.length_cons, hlength]
        · rw [Nat.ofDigitChars_cons, Nat.mul_comm, hvalue]
    · intro h
      obtain ⟨digits, rfl, hlength, hdigits, hvalue⟩ := h
      obtain ⟨c, digits, rfl⟩ := List.exists_cons_of_length_eq_add_one hlength
      obtain ⟨hc, hdigits⟩ := List.forall_mem_cons.mp hdigits
      rw [Nat.ofDigitChars_cons, Nat.mul_comm] at hvalue
      refine Option.bind_eq_some_iff.mpr ⟨_, digit?_eq_some_iff.mpr ⟨hc, rfl⟩, ih.mpr ?_⟩
      exact ⟨digits, rfl, Nat.succ.inj hlength, hdigits, hvalue⟩

theorem number?_append {digits : List Char} (hdigits : ∀ c ∈ digits, c.isDigit = true)
    (rest : List Char) :
    number? 0 digits.length (digits ++ rest) = some (number digits, rest) :=
  number?_eq_some_iff.mpr ⟨digits, rfl, rfl, hdigits, rfl⟩

theorem mark?_eq_some_iff {c : Char} {s rest : List Char} :
    mark? c s = some rest ↔ s = c :: rest := by
  cases s with
  | nil => simp [mark?]
  | cons d s => simp [mark?, eq_comm]

/-- A date and what follows it: each part is read where the one before ends. -/
theorem date?_eq_some_iff {s rest : List Char} :
    date? s = some rest ↔ ∃ year month day, s = dashed year month day ++ rest ∧
      Padded (fun c => c.isDigit = true) year month day ∧
      HasDay (number year) (number month) (number day) := by
  constructor
  · intro h
    simp only [date?, Option.bind_eq_bind, Option.bind_eq_some_iff, Prod.exists,
      number?_eq_some_iff, mark?_eq_some_iff, Option.ite_none_right_eq_some, Option.some.injEq,
      isDay_eq_true_iff] at h
    obtain ⟨_, _, ⟨year, rfl, hyear, hyears, rfl⟩, _, rfl, _, _, ⟨month, rfl, hmonth, hmonths, rfl⟩,
      _, rfl, _, _, ⟨day, rfl, hday, hdays, rfl⟩, hexists, rfl⟩ := h
    refine ⟨year, month, day, by simp [dashed], ⟨hyear, hmonth, hday, ?_⟩, hexists⟩
    rw [List.forall_mem_append, List.forall_mem_append]
    exact ⟨⟨hyears, hmonths⟩, hdays⟩
  · intro h
    obtain ⟨year, month, day, rfl, hpadded, hexists⟩ := h
    have hchars := hpadded.chars
    rw [List.forall_mem_append, List.forall_mem_append] at hchars
    obtain ⟨⟨hyears, hmonths⟩, hdays⟩ := hchars
    have hyear := number?_append hyears ('-' :: (month ++ '-' :: (day ++ rest)))
    have hmonth := number?_append hmonths ('-' :: (day ++ rest))
    have hday := number?_append hdays rest
    rw [hpadded.year_length] at hyear
    rw [hpadded.month_length] at hmonth
    rw [hpadded.day_length] at hday
    have htext : dashed year month day ++ rest =
        year ++ '-' :: (month ++ '-' :: (day ++ rest)) := by
      simp [dashed]
    rw [htext, date?, hyear]
    simp only [Option.bind_eq_bind, Option.bind_some, mark?, if_true, hmonth, hday]
    rw [if_pos ((isDay_eq_true_iff _ _ _).mpr hexists)]

theorem date?_eq_some_nil_iff {s : List Char} : date? s = some [] ↔ IsWrittenDate s := by
  rw [date?_eq_some_iff]
  simp only [List.append_nil]
  rfl

theorem isDate_eq_true_iff (s : String) : isDate s = true ↔ IsWrittenDate s.toList := by
  rw [isDate, decide_eq_true_eq, date?_eq_some_nil_iff]

theorem isWrittenDate_dashed_iff {year month day : List Char}
    (hpadded : Padded (fun c => c.isDigit = true) year month day) :
    IsWrittenDate (dashed year month day) ↔
      HasDay (number year) (number month) (number day) := by
  constructor
  · intro h
    obtain ⟨year', month', day', heq, hpadded', hday⟩ := h
    obtain ⟨rfl, hmonth⟩ := List.append_inj heq
      (hpadded.year_length.trans hpadded'.year_length.symm)
    obtain ⟨rfl, hlast⟩ := List.append_inj (List.cons.inj hmonth).2
      (hpadded.month_length.trans hpadded'.month_length.symm)
    obtain rfl := (List.cons.inj hlast).2
    exact hday
  · intro hday
    exact ⟨year, month, day, rfl, hpadded, hday⟩

/-! Digits of all scripts, and a generous reader. -/

/-- Whatever else counts as a decimal digit, the ten digits do, and signs and blanks do not. -/
structure IsDigitClass (isDecimal isBlank : Char → Bool) : Prop where
  of_isDigit : ∀ c, c.isDigit = true → isDecimal c = true
  no_minus : isDecimal '-' = false
  no_plus : isDecimal '+' = false
  no_blank : ∀ c, isBlank c = true → isDecimal c = false

/-- Whatever else the reader accepts, of dates in full it accepts those of the calendar, and all
that it ever accepts consists of the ten digits, signs and blanks. -/
structure ReadsDates (isBlank : Char → Bool) (reads : List Char → Bool) : Prop where
  padded : ∀ year month day, Padded (fun c => c.isDigit = true) year month day →
    (reads (dashed year month day) = true ↔
      HasDay (number year) (number month) (number day))
  chars : ∀ s, reads s = true → ∀ c ∈ s, c.isDigit = true ∨ c = '-' ∨ c = '+' ∨ isBlank c = true

/-- Four, two and two decimal digits with dashes between them. -/
def IsDatePattern (isDecimal : Char → Bool) (s : List Char) : Prop :=
  ∃ year month day, s = dashed year month day ∧ Padded (fun c => isDecimal c = true) year month day

theorem Padded.imp {p q : Char → Prop} {year month day : List Char} (h : Padded p year month day)
    (himp : ∀ c ∈ year ++ month ++ day, p c → q c) : Padded q year month day :=
  { h with chars := fun c hc => himp c hc (h.chars c hc) }

theorem mem_dashed_iff {c : Char} {year month day : List Char} :
    c ∈ dashed year month day ↔ c = '-' ∨ c ∈ year ++ month ++ day := by
  simp only [dashed, List.mem_append, List.mem_cons]
  tauto

/-- The pattern leaves no room for signs and blanks, and the reader none for other digits. -/
theorem isWrittenDate_iff {isDecimal isBlank : Char → Bool} {reads : List Char → Bool}
    (hdigits : IsDigitClass isDecimal isBlank) (hreads : ReadsDates isBlank reads)
    (s : List Char) : IsWrittenDate s ↔ IsDatePattern isDecimal s ∧ reads s = true := by
  constructor
  · intro h
    obtain ⟨year, month, day, rfl, hpadded, hday⟩ := h
    refine ⟨⟨year, month, day, rfl, ?_⟩, (hreads.padded year month day hpadded).mpr hday⟩
    exact hpadded.imp fun c _ hc => hdigits.of_isDigit c hc
  · intro h
    obtain ⟨⟨year, month, day, rfl, hpattern⟩, hread⟩ := h
    have hpadded : Padded (fun c => c.isDigit = true) year month day := by
      apply hpattern.imp
      intro c hc hdecimal
      rcases hreads.chars _ hread c (mem_dashed_iff.mpr (.inr hc)) with h | rfl | rfl | h
      · exact h
      · rw [hdigits.no_minus] at hdecimal
        cases hdecimal
      · rw [hdigits.no_plus] at hdecimal
        cases hdecimal
      · rw [hdigits.no_blank c h] at hdecimal
        cases hdecimal
    exact ⟨year, month, day, rfl, hpadded, (hreads.padded year month day hpadded).mp hread⟩

/-- The format of dates accepts the days of the calendar, written in full. So do a pattern for
decimal digits and a reader of dates together, whatever each of them accepts besides. -/
theorem date_accepts_iff :
    (∀ s : String, StringFormat.date.accepts s = true ↔ IsWrittenDate s.toList) ∧
    ∀ (isDecimal isBlank : Char → Bool) (reads : List Char → Bool),
      IsDigitClass isDecimal isBlank → ReadsDates isBlank reads → ∀ s : String,
        (StringFormat.date.accepts s = true ↔
          IsDatePattern isDecimal s.toList ∧ reads s.toList = true) := by
  refine ⟨isDate_eq_true_iff, fun isDecimal isBlank reads hdigits hreads s => ?_⟩
  rw [← isWrittenDate_iff hdigits hreads]
  exact isDate_eq_true_iff s

/-- The ten digits and those of Arabic. -/
def isDigitOrArabic (c : Char) : Bool :=
  c.isDigit || ('٠'.toNat ≤ c.toNat && c.toNat ≤ '٩'.toNat)

/-- Reads a date after blanks. -/
def readsAfterBlanks (s : List Char) : Bool := date? (s.dropWhile (· = ' ')) = some []

theorem isDigitClass_isDigitOrArabic : IsDigitClass isDigitOrArabic (· = ' ') where
  of_isDigit c hc := by simp [isDigitOrArabic, hc]
  no_minus := by decide
  no_plus := by decide
  no_blank c hc := by
    obtain rfl := of_decide_eq_true hc
    decide

theorem readsDates_readsAfterBlanks : ReadsDates (· = ' ') readsAfterBlanks where
  padded year month day hpadded := by
    have hblanks : (dashed year month day).dropWhile (· = ' ') = dashed year month day := by
      obtain ⟨c, others, rfl⟩ := List.exists_cons_of_length_eq_add_one hpadded.year_length
      have hc : c.isDigit = true := hpadded.chars c (by simp)
      apply List.dropWhile_cons_of_neg
      intro hblank
      obtain rfl := of_decide_eq_true hblank
      exact absurd hc (by decide)
    rw [readsAfterBlanks, decide_eq_true_eq, hblanks, date?_eq_some_nil_iff,
      isWrittenDate_dashed_iff hpadded]
  chars s hs c hc := by
    rw [readsAfterBlanks, decide_eq_true_eq, date?_eq_some_nil_iff] at hs
    rw [← List.takeWhile_append_dropWhile (p := (· = ' ')) (l := s)] at hc
    rcases List.mem_append.mp hc with hc | hc
    · exact .inr (.inr (.inr (List.all_eq_true.mp List.all_takeWhile c hc)))
    · obtain ⟨year, month, day, heq, hpadded, -⟩ := hs
      rw [heq, mem_dashed_iff] at hc
      rcases hc with rfl | hc
      · exact .inr (.inl rfl)
      · exact .inl (hpadded.chars c hc)

/-- A leap day is accepted. The reader alone accepts a blank before it, and the pattern alone other
digits. -/
theorem leap_day_accepted :
    (StringFormat.date.accepts "2024-02-29" = true ∧ IsWrittenDate "2024-02-29".toList) ∧
    (StringFormat.date.accepts " 2024-02-29" = false ∧
      readsAfterBlanks " 2024-02-29".toList = true ∧
      ¬IsDatePattern isDigitOrArabic " 2024-02-29".toList) ∧
    StringFormat.date.accepts "٢٠٢٤-٠٢-٢٩" = false ∧
      IsDatePattern isDigitOrArabic "٢٠٢٤-٠٢-٢٩".toList ∧
      readsAfterBlanks "٢٠٢٤-٠٢-٢٩".toList = false := by
  obtain ⟨hwritten, hboth⟩ := date_accepts_iff
  have hagree := hboth isDigitOrArabic (· = ' ') readsAfterBlanks isDigitClass_isDigitOrArabic
    readsDates_readsAfterBlanks
  have haccepted : StringFormat.date.accepts "2024-02-29" = true := by decide
  have hblank : StringFormat.date.accepts " 2024-02-29" = false := by decide
  have harabic : StringFormat.date.accepts "٢٠٢٤-٠٢-٢٩" = false := by decide
  have hread : readsAfterBlanks " 2024-02-29".toList = true := by decide
  have hpattern : IsDatePattern isDigitOrArabic "٢٠٢٤-٠٢-٢٩".toList :=
    ⟨['٢', '٠', '٢', '٤'], ['٠', '٢'], ['٢', '٩'], by decide, rfl, rfl, rfl,
      List.all_eq_true.mp (by decide)⟩
  refine ⟨⟨haccepted, (hwritten _).mp haccepted⟩, ⟨hblank, hread, ?_⟩, harabic, hpattern, ?_⟩
  · intro h
    have hcontrary := (hagree _).mpr ⟨h, hread⟩
    rw [hblank] at hcontrary
    cases hcontrary
  · apply Bool.eq_false_iff.mpr
    intro h
    have hcontrary := (hagree _).mpr ⟨hpattern, h⟩
    rw [harabic] at hcontrary
    cases hcontrary

end RecordShape.Calendar
