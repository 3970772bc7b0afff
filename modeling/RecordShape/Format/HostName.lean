import RecordShape.Format.Punycode
import RecordShape.Text.DirectionTable
import RecordShape.Text.HostTable
import RecordShape.Text.Runs

/-!
# Host names

A host name is mapped to lower case and plain forms, cut into labels, and each label is examined:
what it spells in Punycode must be in plain form already, a mark cannot come first, joiners need
the right neighbours, and letters of both directions must not be mixed freely.
-/

namespace RecordShape.HostName

/-- ASCII characters that no host name contains. -/
def isForbidden (c : Char) : Bool :=
  c.toNat ≤ 0x20 || c.toNat = 0x7f || "%#/:<>?@[\\]^|".toList.contains c

/-- The image of a code point among some runs of images. -/
def imageIn? (images : List HostImage) (x : Nat) : Option Nat :=
  (images.find? fun r => r.first ≤ x && x ≤ r.last).map fun r => r.image + (x - r.first)

/-- What a character stands for; there is nothing if it is not allowed. A character that stands
for others beyond ASCII is kept, for these are allowed and are of the same kind. -/
def image? (c : Char) : Option (List Char) :=
  let x := c.toNat
  if x < 0x80 then
    if isForbidden c then none
    else some [if 'A' ≤ c ∧ c ≤ 'Z' then Char.ofNat (x + 32) else c]
  else if Runs.contains hostDisallowedRuns x then none
  else if Runs.contains hostIgnoredRuns x then some []
  else
    match imageIn? hostSignImages x, imageIn? hostNumberImages x with
    | some y, _ => some [Char.ofNat y]
    | none, some n => some (Nat.toDigits 10 n)
    | none, none => some [c]

def mapAll? : List Char → Option (List Char)
  | [] => some []
  | c :: rest => do
    let image ← image? c
    let images ← mapAll? rest
    return image ++ images

/-- The parts of a text between dots. -/
def labels (s : List Char) : List (List Char) :=
  s.splitBy (fun a b => a ≠ '.' && b ≠ '.') |>.filter (· ≠ ['.'])

/-- A code point that may stand in a label as it is. -/
def isPlain (x : Nat) : Bool :=
  if x < 0x80 then !('A'.toNat ≤ x && x ≤ 'Z'.toNat)
  else !(Runs.contains hostDisallowedRuns x || Runs.contains hostIgnoredRuns x ||
    Runs.contains hostMappedRuns x)

/-- The code points of a label, with Punycode spelled out. -/
def spelled? (label : List Char) : Option (List Nat) :=
  match label with
  | 'x' :: 'n' :: '-' :: '-' :: rest => do
    let text ← Punycode.decode? rest
    if text.all isPlain && text.any (0x80 ≤ ·) then some text else none
  | _ => some (label.map Char.toNat)

def nonJoiner : Nat := 0x200c
def joiner : Nat := 0x200d

/-- Joiners follow a mark that suppresses a vowel, or stand between letters that join. The
characters before the place are given in reverse. -/
def joinersFit (before : List Nat) : List Nat → Bool
  | [] => true
  | x :: rest =>
    let afterVirama := before.head?.any (Runs.contains viramaRuns)
    let between :=
      let skip (s : List Nat) := s.dropWhile (Runs.contains transparentRuns)
      (skip before).head?.any (Runs.contains joinsAfterRuns) &&
        (skip rest).head?.any (Runs.contains joinsBeforeRuns)
    (x ≠ joiner || afterVirama) && (x ≠ nonJoiner || afterVirama || between) &&
      joinersFit (x :: before) rest

def isRightToLeft (x : Nat) : Bool :=
  Runs.contains rightToLeftRuns x || Runs.contains arabicNumberRuns x

def isMarkless (x : Nat) : Bool := !Runs.contains nonspacingRuns x

def isNumeric (x : Nat) : Bool := Runs.contains numberRuns x

def isNeutral (x : Nat) : Bool := Runs.contains neutralRuns x || Runs.contains nonspacingRuns x

/-- A letter written from left to right. -/
def isLeftToRight (x : Nat) : Bool := !(isRightToLeft x || isNumeric x || isNeutral x)

/-- The directions within a label of a name that has letters from right to left. -/
def directionsFit (label : List Nat) : Bool :=
  match label, (label.filter isMarkless).getLast? with
  | [], _ => true
  | _, none => false
  | first :: _, some last =>
    if Runs.contains rightToLeftRuns first then
      !label.any isLeftToRight && (isRightToLeft last || isNumeric last) &&
        !(label.any isNumeric && label.any (Runs.contains arabicNumberRuns))
    else if isLeftToRight first then
      !label.any isRightToLeft && (isLeftToRight last || isNumeric last)
    else false

def labelFits (label : List Nat) : Bool :=
  !label.head?.any (Runs.contains markRuns) && joinersFit [] label

/-- The name in plain form, if it is a host name. -/
def plain? (s : List Char) : Option (List Char) := do
  let name ← mapAll? s
  let labels ← (labels name).mapM spelled?
  let directed := labels.any (·.any isRightToLeft)
  if labels.all labelFits && (!directed || labels.all directionsFit) then some name else none

end RecordShape.HostName
