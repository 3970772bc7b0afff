/-!
# Mail addresses

One pass over the text: names up to the sign, then labels with dots between them, of which the
last has letters only.
-/

namespace RecordShape.Email

def isLetter (c : Char) : Bool := ('a' ≤ c && c ≤ 'z') || ('A' ≤ c && c ≤ 'Z')

def isDigit (c : Char) : Bool := '0' ≤ c && c ≤ '9'

/-- May end the part before the sign. -/
def endsName (c : Char) : Bool := isLetter c || isDigit c || c = '_' || c = '+' || c = '-'

mutual
/-- At the first character of a label; `dotted` if a label has been passed. -/
def label (dotted : Bool) : List Char → Bool
  | [] => false
  | c :: rest => (isLetter c || isDigit c) && labelRest dotted (isLetter c) 1 rest

/-- Inside a label of `count` characters so far; `letters` if all of them are letters. -/
def labelRest (dotted letters : Bool) (count : Nat) : List Char → Bool
  | [] => dotted && letters && 2 ≤ count
  | c :: rest =>
    if c = '.' then label true rest
    else (isLetter c || isDigit c || c = '-') &&
      labelRest dotted (letters && isLetter c) (count + 1) rest
end

/-- Before the sign, after the character `last` if there is one. -/
def name (last : Option Char) : List Char → Bool
  | [] => false
  | c :: rest =>
    if c = '@' then last.any endsName && label false rest
    else if c = '.' then last.any (· ≠ '.') && name (some c) rest
    else (endsName c || c = '\'') && name (some c) rest

def isAddress (s : String) : Bool := name none s.toList

end RecordShape.Email
