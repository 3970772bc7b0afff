/-!
# Dates and times

Calendar dates written `YYYY-MM-DD`, and points in time: a date, a time of day with an optional
fraction of a second, and the offset from universal time. A minute may have a second numbered 60.
-/

namespace RecordShape.Calendar

def isLeapYear (year : Nat) : Bool := year % 4 = 0 && (year % 100 ≠ 0 || year % 400 = 0)

/-- The length of each month. -/
def monthLengths (year : Nat) : List Nat :=
  [31, if isLeapYear year then 29 else 28, 31, 30, 31, 30, 31, 31, 30, 31, 30, 31]

def isDay (year month day : Nat) : Bool :=
  1 ≤ month && 1 ≤ day && day ≤ (monthLengths year).getD (month - 1) 0

def digit? (c : Char) : Option Nat :=
  if '0' ≤ c ∧ c ≤ '9' then some (c.toNat - '0'.toNat) else none

/-- A number of exactly `n` digits, after those that make up `value`. -/
def number? (value : Nat) : Nat → List Char → Option (Nat × List Char)
  | 0, s => some (value, s)
  | n + 1, c :: rest => (digit? c).bind fun d => number? (value * 10 + d) n rest
  | _ + 1, [] => none

def mark? (c : Char) : List Char → Option (List Char)
  | d :: rest => if c = d then some rest else none
  | [] => none

/-- A date of the calendar and what follows it. -/
def date? (s : List Char) : Option (List Char) := do
  let (year, s) ← number? 0 4 s
  let s ← mark? '-' s
  let (month, s) ← number? 0 2 s
  let s ← mark? '-' s
  let (day, s) ← number? 0 2 s
  if isDay year month day then some s else none

def isDate (s : String) : Bool := date? s.toList = some []

/-- A fraction of a second: nothing, or a point and digits. -/
def fraction? : List Char → Option (List Char)
  | '.' :: c :: rest =>
    if (digit? c).isSome then some (rest.dropWhile fun d => (digit? d).isSome) else none
  | ['.'] => none
  | s => some s

/-- A time of day and what follows it. -/
def time? (s : List Char) : Option (List Char) := do
  let (hour, s) ← number? 0 2 s
  let s ← mark? ':' s
  let (minute, s) ← number? 0 2 s
  let s ← mark? ':' s
  let (second, s) ← number? 0 2 s
  if hour ≤ 23 ∧ minute ≤ 59 ∧ second ≤ 60 then fraction? s else none

/-- An offset of less than a day, or `Z`. -/
def offset? : List Char → Option (List Char)
  | [] => none
  | c :: s =>
    if c = 'Z' ∨ c = 'z' then some s
    else if c = '+' ∨ c = '-' ∨ c = '−' then do
      let (hours, s) ← number? 0 2 s
      let s ← mark? ':' s
      let (minutes, s) ← number? 0 2 s
      if hours ≤ 23 ∧ minutes ≤ 59 then some s else none
    else none

/-- What separates a date from a time. -/
def separator? : List Char → Option (List Char)
  | c :: s => if c = 'T' ∨ c = 't' ∨ c = ' ' then some s else none
  | [] => none

def isDateTime (s : String) : Bool :=
  (date? s.toList >>= separator? >>= time? >>= offset?) = some []

/-- The year, month and day of a day counted from the first of January 1970. Years are counted from
March on, so that a leap day is the last of its year and a year begins after 365 days or 366. -/
def dateOfDay (day : Nat) : Nat × Nat × Nat :=
  let day := day + 719468
  let cycle := day / 146097
  let inCycle := day % 146097
  let year := (inCycle - inCycle / 1460 + inCycle / 36524 - inCycle / 146096) / 365
  let inYear := inCycle - (365 * year + year / 4 - year / 100)
  let month := (5 * inYear + 2) / 153
  let inMonth := inYear - (153 * month + 2) / 5 + 1
  let fromMarch := month < 10
  (cycle * 400 + year + (if fromMarch then 0 else 1),
    if fromMarch then month + 3 else month - 9, inMonth)

/-- A number with zeros in front up to a width. -/
def padded (width n : Nat) : String :=
  let digits := toString n
  "".pushn '0' (width - digits.length) ++ digits

/-- A point in universal time, in seconds and nanoseconds from the beginning of 1970. -/
def timestamp (seconds nanoseconds : Nat) : String :=
  let (year, month, day) := dateOfDay (seconds / 86400)
  let time := seconds % 86400
  padded 4 year ++ "-" ++ padded 2 month ++ "-" ++ padded 2 day ++ "T" ++
    padded 2 (time / 3600) ++ ":" ++ padded 2 (time / 60 % 60) ++ ":" ++ padded 2 (time % 60) ++
    "." ++ padded 9 nanoseconds ++ "+00:00"

end RecordShape.Calendar
