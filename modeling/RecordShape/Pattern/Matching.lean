import RecordShape.Pattern.Syntax
import RecordShape.Text.CaseTable

/-!
# Matching a pattern

Matching goes on from a place in the text, forward or, inside a look behind, backward, and hands
every way to match on to a continuation, in order of preference, until one succeeds. A loop may
match the empty text only while its least count is not reached, so the characters left bound the
number of its turns.
-/

namespace RecordShape

namespace ClassPart

def isWordCode (x : Nat) : Bool :=
  ('0'.toNat ≤ x && x ≤ '9'.toNat) || ('A'.toNat ≤ x && x ≤ 'Z'.toNat) ||
    ('a'.toNat ≤ x && x ≤ 'z'.toNat) || x = '_'.toNat

def isLineEnd (x : Nat) : Bool := x = 0x0a || x = 0x0d || x = 0x2028 || x = 0x2029

def isSpaceCode (x : Nat) : Bool :=
  (0x09 ≤ x && x ≤ 0x0d) || x = 0x20 || x = 0xa0 || x = 0x1680 || (0x2000 ≤ x && x ≤ 0x200a) ||
    x = 0x2028 || x = 0x2029 || x = 0x202f || x = 0x205f || x = 0x3000 || x = 0xfeff

def contains (part : ClassPart) (x : Nat) : Bool :=
  match part with
  | range first last => first ≤ x && x ≤ last
  | digit negated => ('0'.toNat ≤ x && x ≤ '9'.toNat) != negated
  | space negated => isSpaceCode x != negated
  | word negated => isWordCode x != negated

end ClassPart

/-- How far a match has come, and what the groups hold: where each begins and ends. -/
structure MatchState where
  place : Nat
  groups : List (Nat × Nat × Nat) := []

namespace MatchState

def group? (s : MatchState) (index : Nat) : Option (Nat × Nat) := s.groups.lookup index

def withGroup (s : MatchState) (index first last : Nat) : MatchState :=
  { s with groups := (index, first, last) :: s.groups }

/-- Forgets what the groups from `first` on and before `next` hold. -/
def withoutGroups (s : MatchState) (first next : Nat) : MatchState :=
  if first < next then
    { s with groups := s.groups.filter fun g => g.1 < first || next ≤ g.1 }
  else s

end MatchState

namespace Expression

/-- What is left to do after a match; it says whether the whole succeeds. -/
abbrev Continuation := MatchState → Option MatchState

/-- Equal characters, without regard to case if asked. -/
def sameChar (ignoreCase : Bool) (x y : Nat) : Bool :=
  x = y || (ignoreCase && upperCase x = upperCase y)

def setContains (negated : Bool) (parts : List ClassPart) (ignoreCase : Bool) (x : Nat) : Bool :=
  let candidates := if ignoreCase then foldClass x else [x]
  (candidates.any fun y => parts.any (·.contains y)) != negated

/-- Takes one character that satisfies a test. -/
def takeChar (text : Array Nat) (backward : Bool) (test : Nat → Bool) (k : Continuation) :
    Continuation := fun s =>
  if backward then
    if s.place = 0 then none
    else if test (text.getD (s.place - 1) 0) then k { s with place := s.place - 1 } else none
  else
    if s.place < text.size && test (text.getD s.place 0) then k { s with place := s.place + 1 }
    else none

/-- Whether the text between two places recurs from the place `start` on. -/
def recurs (text : Array Nat) (ignoreCase : Bool) (first start : Nat) : Nat → Bool
  | 0 => true
  | n + 1 =>
    sameChar ignoreCase (text.getD (first + n) 0) (text.getD (start + n) 0) &&
      recurs text ignoreCase first start n

/-- Takes the text that a group holds once more. A group that holds nothing takes nothing. -/
def takeGroup (text : Array Nat) (backward ignoreCase : Bool) (index : Nat) (k : Continuation) :
    Continuation := fun s =>
  match s.group? index with
  | none => k s
  | some (first, last) =>
    let size := last - first
    if backward then
      if size ≤ s.place && recurs text ignoreCase first (s.place - size) size then
        k { s with place := s.place - size }
      else none
    else if s.place + size ≤ text.size && recurs text ignoreCase first s.place size then
      k { s with place := s.place + size }
    else none

def isLineStart (text : Array Nat) (multiline : Bool) (place : Nat) : Bool :=
  place = 0 || (multiline && ClassPart.isLineEnd (text.getD (place - 1) 0))

def isLineStop (text : Array Nat) (multiline : Bool) (place : Nat) : Bool :=
  text.size ≤ place || (multiline && ClassPart.isLineEnd (text.getD place 0))

/-- A word character stands on exactly one side of the place. -/
def isWordBoundary (text : Array Nat) (place : Nat) : Bool :=
  let before := 0 < place && ClassPart.isWordCode (text.getD (place - 1) 0)
  let after := place < text.size && ClassPart.isWordCode (text.getD place 0)
  before != after

/-- Repeats a body: `min` turns it must take, and up to `max` in all. A turn beyond the least
count that gets nowhere fails. -/
def turns (body : Continuation → Continuation) (greedy : Bool) (firstGroup nextGroup : Nat)
    (k : Continuation) : Nat → Nat → Option Nat → Continuation
  | 0, _, _ => k
  | fuel + 1, min, max => fun s =>
    if max = some 0 then k s
    else
      let again (_ : Unit) : Option MatchState :=
        body (fun t =>
            if min = 0 ∧ t.place = s.place then none
            else turns body greedy firstGroup nextGroup k fuel (min - 1) (max.map (· - 1)) t)
          (s.withoutGroups firstGroup nextGroup)
      if 0 < min then again ()
      else if greedy then
        match again () with
        | some t => some t
        | none => k s
      else
        match k s with
        | some t => some t
        | none => again ()

/-- Matches an expression and goes on with the continuation. -/
def run (text : Array Nat) (backward : Bool) : Expression → Continuation → Continuation
  | empty, k => k
  | char code ignoreCase, k => takeChar text backward (sameChar ignoreCase code) k
  | any acrossLines, k => takeChar text backward (fun x => acrossLines || !ClassPart.isLineEnd x) k
  | set negated parts ignoreCase, k =>
    takeChar text backward (setContains negated parts ignoreCase) k
  | sequence first second, k =>
    if backward then run text backward second (run text backward first k)
    else run text backward first (run text backward second k)
  | choice first second, k => fun s =>
    match run text backward first k s with
    | some t => some t
    | none => run text backward second k s
  | group index body, k => fun s =>
    run text backward body (fun t =>
      k (t.withGroup index (min s.place t.place) (max s.place t.place)))
      s
  | reference index ignoreCase, k => takeGroup text backward ignoreCase index k
  | lineStart multiline, k => fun s => if isLineStart text multiline s.place then k s else none
  | lineEnd multiline, k => fun s => if isLineStop text multiline s.place then k s else none
  | wordBoundary negated, k => fun s =>
    if isWordBoundary text s.place != negated then k s else none
  | look behind negated body, k => fun s =>
    match run text behind body some s, negated with
    | some t, false => k { t with place := s.place }
    | none, true => k s
    | _, _ => none
  | loop body least most greedy firstGroup nextGroup, k =>
    if body = .empty then k
    else
      turns (run text backward body) greedy firstGroup nextGroup k (least + text.size + 1) least
        most

/-- Whether the expression matches at the given place or one of the `n` places after it. -/
def matchesFrom (e : Expression) (text : Array Nat) (place : Nat) : Nat → Bool
  | 0 => (e.run text false some { place }).isSome
  | n + 1 => (e.run text false some { place }).isSome || matchesFrom e text (place + 1) n

/-- Whether the expression matches somewhere in a text. -/
def occursIn (e : Expression) (s : String) : Bool :=
  let text := (s.toList.map Char.toNat).toArray
  e.matchesFrom text 0 text.size

end Expression
end RecordShape
