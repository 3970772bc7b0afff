/-!
# How alike two names are

A name resembles another one when its characters occur in the other in this order. The score rates
the best way to place them: every character counts, more so at the beginning of a word, and gaps
cost. Without a capital in the name, case only makes a difference of degree.
-/

namespace RecordShape.Similarity

inductive CharKind where
  /-- Nothing, before the first character. -/
  | start
  | hardSeparator
  | softSeparator
  | digit
  | upper
  | lower
  deriving DecidableEq

def kindOf (c : Char) : CharKind :=
  if c = '\x00' then .start
  else if " /\\|()[]\x7b\x7d".toList.contains c then .hardSeparator
  else if ('!' ≤ c ∧ c ≤ '\'') ∨ ('*' ≤ c ∧ c ≤ '.') ∨ (':' ≤ c ∧ c ≤ '@') ∨
      ('^' ≤ c ∧ c ≤ '\x60') ∨
      c = '~' then .softSeparator
  else if '0' ≤ c ∧ c ≤ '9' then .digit
  else if 'A' ≤ c ∧ c ≤ 'Z' then .upper
  else .lower

/-- The bonus of a character that follows another. -/
def placeBonus (before after : CharKind) : Int :=
  match before, after with
  | .start, _ | .hardSeparator, _ => 8
  | .softSeparator, _ => 7
  | .lower, .upper | .digit, .upper => 6
  | _, _ => 0

/-- The bonuses of characters, the first of which follows one of the given kind. -/
def bonusesFrom (before : CharKind) : List Char → List Int
  | [] => []
  | c :: rest => placeBonus before (kindOf c) :: bonusesFrom (kindOf c) rest

/-- The bonuses of all characters of a text; the first character counts twice. -/
def bonuses (text : List Char) : List Int :=
  match bonusesFrom .start text with
  | [] => []
  | b :: rest => 2 * b :: rest

def lowerCase (c : Char) : Char := if 'A' ≤ c ∧ c ≤ 'Z' then Char.ofNat (c.toNat + 32) else c

def sameChar (strict : Bool) (c d : Char) : Bool :=
  if strict then c = d else lowerCase c = lowerCase d

/-- The places where the characters of a pattern are found first, each after the one before. -/
def firstPlaces (strict : Bool) (place : Nat) : List Char → List Char → Option (List Nat)
  | _, [] => some []
  | [], _ :: _ => none
  | c :: text, p :: pattern =>
    if sameChar strict c p then
      (firstPlaces strict (place + 1) text pattern).map (place :: ·)
    else firstPlaces strict (place + 1) text (p :: pattern)

/-- The best scores up to a place: when the character there is taken, and when it is passed. -/
structure Cell where
  taken : Int
  passed : Int

def hopeless : Int := -32768

/-- A column to fill in: the cell before it in the row above, its character and its bonus. -/
structure Column where
  above : Cell
  char : Char
  bonus : Int

/-- The cells of a row from left to right. -/
def fillRow (strict : Bool) (p : Char) (left : Cell) : List Column → List Cell
  | [] => []
  | column :: rest =>
    let taken :=
      if sameChar strict column.char p then
        max (column.above.taken + max column.bonus 4) (column.above.passed + column.bonus) +
          (if column.char = p then 16 else 14)
      else hopeless
    let cell : Cell := ⟨taken, max (left.taken - 4) (left.passed - 1)⟩
    cell :: fillRow strict p cell rest

/-- The rows of the remaining characters of a pattern, each with its first place; the last row is
the result. -/
def lastRow (strict : Bool) (columns : List (Char × Int)) (row : List Cell) :
    List (Char × Nat) → List Cell
  | [] => row
  | (p, first) :: rest =>
    let unreached : Cell := ⟨hopeless, hopeless⟩
    let fresh := List.zipWith (fun above (c, bonus) => ⟨above, c, bonus⟩)
      (row.drop first) (columns.drop first)
    lastRow strict columns
      (List.replicate (first + 1) unreached ++ fillRow strict p unreached fresh) rest

/-- The score of a pattern in a text, if its characters occur there in order. -/
def score? (text pattern : String) : Option Int :=
  let text := text.toList
  let pattern := pattern.toList
  if pattern.isEmpty then some 0
  else
    let strict := pattern.any fun c => 'A' ≤ c && c ≤ 'Z'
    (firstPlaces strict 0 text pattern).map fun places =>
      let start : List Cell := List.replicate (text.length + 1) ⟨hopeless, -1⟩
      let row := lastRow strict (text.zip (bonuses text)) start (pattern.zip places)
      ((row.drop (places.getLastD 0)).map Cell.taken).foldl max hopeless

/-- The score of two names, either of which may occur in the other. -/
def resemblance? (name target : String) : Option Int :=
  match score? name target with
  | some n => some n
  | none => score? target name

/-- Inserts a rated name before the first that is rated lower. Names rated alike keep their
order. -/
def insertRated (rated : Int × String) : List (Int × String) → List (Int × String)
  | [] => [rated]
  | other :: rest =>
    if other.1 < rated.1 then rated :: other :: rest else other :: insertRated rated rest

/-- At most three of the names that resemble a target, the best first. -/
def suggestions (target : String) (names : List String) : List String :=
  if target.isEmpty then []
  else
    let rated := names.filterMap fun name => (resemblance? name target).map fun n => (n, name)
    ((rated.foldl (fun sorted r => insertRated r sorted) []).take 3).map Prod.snd

end RecordShape.Similarity
