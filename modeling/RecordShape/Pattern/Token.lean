import RecordShape.Pattern.Syntax
import RecordShape.Text.Runs
import RecordShape.Text.IdentifierTable

/-!
# Tokens of a pattern

A pattern is cut into tokens from left to right: atoms, brackets, bars and quantifiers. A fault
in the spelling becomes a token of its own, so that faults of structure before it come first.
How digits and names after a backslash are read depends on the groups of the whole pattern, which
an outline lists beforehand.
-/

namespace RecordShape
attribute [local instance (high)] instPowNat

/-- The groups of a pattern: how many open brackets there are, and how many precede the bracket of
each named group. -/
structure PatternOutline where
  brackets : Nat := 0
  names : List (String × Nat) := []

/-- What `i`, `m` and `s` ask for. -/
structure PatternFlags where
  ignoreCase : Bool := false
  multiline : Bool := false
  acrossLines : Bool := false

inductive GroupKind where
  | capture
  | plain
  | look (behind negated : Bool)
  /-- A group that switches flags on and off. -/
  | flags (on off : List Char)

def GroupKind.isCapture : GroupKind → Bool
  | capture => true
  | _ => false

structure Quantifier where
  min : Nat
  max : Option Nat
  greedy : Bool

inductive PatternToken where
  | char (code : Nat)
  | any
  | set (negated : Bool) (parts : List ClassPart)
  | shorthand (part : ClassPart)
  | reference (index : Nat)
  | lineStart
  | lineEnd
  | wordBoundary (negated : Bool)
  | open (kind : GroupKind)
  | close
  | bar
  | repeat (quantifier : Quantifier) (braced : Bool)
  | fault (message : String)

namespace PatternScan

def isDigit (c : Char) : Bool := '0' ≤ c && c ≤ '9'

def isLetter (c : Char) : Bool := ('a' ≤ c && c ≤ 'z') || ('A' ≤ c && c ≤ 'Z')

def hexDigit? (c : Char) : Option Nat :=
  if isDigit c then some (c.toNat - '0'.toNat)
  else if 'a' ≤ c ∧ c ≤ 'f' then some (c.toNat - 'a'.toNat + 10)
  else if 'A' ≤ c ∧ c ≤ 'F' then some (c.toNat - 'A'.toNat + 10)
  else none

/-- The value of hexadecimal digits, of which there is at least one; a plus sign may precede. -/
def hexNumber? (digits : List Char) : Option Nat :=
  let digits := match digits with
    | '+' :: rest => rest
    | _ => digits
  if digits.isEmpty then none
  else digits.foldlM (fun n c => (hexDigit? c).map (n * 16 + ·)) 0

def isLeading (n : Nat) : Bool := 0xd800 ≤ n && n ≤ 0xdbff
def isTrailing (n : Nat) : Bool := 0xdc00 ≤ n && n ≤ 0xdfff

/-- The second half of a pair of escapes that spell one code point. -/
def trailingEscape? : List Char → Option (Nat × List Char)
  | '\\' :: 'u' :: a :: b :: c :: d :: rest =>
    match hexNumber? [a, b, c, d] with
    | some n => if isTrailing n then some (n, rest) else none
    | none => none
  | _ => none

/-- The code point after `\u`: four digits, two such escapes for one code point, or digits in
braces. -/
def unicodeEscape? : List Char → Option (Nat × List Char)
  | '{' :: rest =>
    match rest.dropWhile (· ≠ '}') with
    | [] => none
    | _ :: after =>
      match hexNumber? (rest.takeWhile (· ≠ '}')) with
      | some n => if n ≤ 0x10ffff then some (n, after) else none
      | none => none
  | a :: b :: c :: d :: rest =>
    match hexNumber? [a, b, c, d] with
    | none => none
    | some n =>
      if isLeading n then
        match trailingEscape? rest with
        | some (m, rest) => some ((n - 0xd800) * 0x400 + (m - 0xdc00) + 0x10000, rest)
        | none => some (n, rest)
      else some (n, rest)
  | _ => none

/-- One character of a group name, which may be spelled by an escape. -/
def nameChar? : List Char → Option (Char × List Char)
  | [] => none
  | '\\' :: 'u' :: rest =>
    match unicodeEscape? rest with
    | some (n, rest) => if h : n.isValidChar then some (Char.ofNatAux n h, rest) else none
    | none => none
  | c :: rest => some (c, rest)

def startsName (c : Char) : Bool :=
  c = '$' || c = '_' || Runs.contains identifierStartRuns c.toNat

def continuesName (c : Char) : Bool :=
  c = '$' || c = '\u200c' || c = '\u200d' || Runs.contains identifierPartRuns c.toNat

/-- The rest of a group name, up to its closing angle bracket. -/
def nameRest? (seen : List Char) : Nat → List Char → Option (String × List Char)
  | 0, _ => none
  | fuel + 1, s =>
    match nameChar? s with
    | none => none
    | some (c, rest) =>
      if c = '>' then some (String.ofList seen.reverse, rest)
      else if continuesName c then nameRest? (c :: seen) fuel rest
      else none

/-- A group name in angle brackets. -/
def groupName? : List Char → Option (String × List Char)
  | '<' :: s =>
    match nameChar? s with
    | some (c, rest) => if startsName c then nameRest? [c] rest.length.succ rest else none
    | none => none
  | _ => none

/-- Passes over a character class to the outside of its closing bracket. -/
def skipClass : List Char → List Char
  | [] => []
  | '\\' :: _ :: rest => skipClass rest
  | ['\\'] => []
  | c :: rest => if c = ']' then rest else skipClass rest

/-- Counts the brackets and collects the names of groups. Fails on a name given twice. -/
def outlineFrom (o : PatternOutline) : Nat → List Char → Except String PatternOutline
  | 0, _ => .ok o
  | fuel + 1, s =>
    match s with
    | [] => .ok o
    | '\\' :: rest => outlineFrom o fuel (rest.drop 1)
    | '[' :: rest => outlineFrom o fuel (skipClass rest)
    | '(' :: '?' :: rest =>
      match groupName? rest with
      | some (name, after) =>
        if (o.names.lookup name).isSome then .error "Duplicate capture group name"
        else
          outlineFrom { brackets := o.brackets + 1, names := (name, o.brackets) :: o.names } fuel
            after
      | none => outlineFrom { o with brackets := o.brackets + 1 } fuel rest
    | '(' :: rest => outlineFrom { o with brackets := o.brackets + 1 } fuel rest
    | _ :: rest => outlineFrom o fuel rest

def outline (s : List Char) : Except String PatternOutline := outlineFrom {} s.length.succ s

/-- The greatest count a quantifier can ask for. -/
def countLimit : Nat := 2 ^ (64 : Nat) - 1

def decimal? (s : List Char) : Option (Nat × List Char) :=
  match s.takeWhile isDigit with
  | [] => none
  | digits =>
    let n := digits.foldl (fun n c => n * 10 + (c.toNat - '0'.toNat)) 0
    some (min n countLimit, s.dropWhile isDigit)

/-- A quantifier in braces, after its first brace. -/
def braced? (s : List Char) : Option (Nat × Option Nat × List Char) :=
  match decimal? s with
  | none => none
  | some (low, '}' :: rest) => some (low, some low, rest)
  | some (low, ',' :: '}' :: rest) => some (low, none, rest)
  | some (low, ',' :: rest) =>
    match decimal? rest with
    | some (high, '}' :: rest) => some (low, some high, rest)
    | _ => none
  | _ => none

/-- A quantifier token, lazy if a question mark follows. -/
def quantified (min : Nat) (max : Option Nat) (braced : Bool) :
    List Char → PatternToken × List Char
  | '?' :: rest => (.repeat ⟨min, max, false⟩ braced, rest)
  | rest => (.repeat ⟨min, max, true⟩ braced, rest)

def isOctal (c : Char) : Bool := '0' ≤ c && c ≤ '7'

def octalDigit (c : Char) : Nat := c.toNat - '0'.toNat

/-- An escape by octal digits, at most `0377`, after its first digit. -/
def octalEscape (first : Char) (rest : List Char) : Nat × List Char :=
  match rest with
  | b :: c :: after =>
    if isOctal b && isOctal c && first ≤ '3' then
      ((octalDigit first * 8 + octalDigit b) * 8 + octalDigit c, after)
    else if isOctal b then (octalDigit first * 8 + octalDigit b, c :: after)
    else (octalDigit first, rest)
  | [b] => if isOctal b then (octalDigit first * 8 + octalDigit b, []) else (octalDigit first, [b])
  | [] => (octalDigit first, [])

/-- The code point of an escape that stands for one character, after the backslash. An `x` takes the
next two characters with it even if they are no digits. -/
def characterEscape (c : Char) (rest : List Char) : Nat × List Char :=
  if c = 'f' then (0x0c, rest)
  else if c = 'n' then (0x0a, rest)
  else if c = 'r' then (0x0d, rest)
  else if c = 't' then (0x09, rest)
  else if c = 'v' then (0x0b, rest)
  else if isOctal c then octalEscape c rest
  else if c = 'x' then
    match rest with
    | a :: b :: after =>
      match hexDigit? a, hexDigit? b with
      | some a, some b => (a * 16 + b, after)
      | _, _ => (c.toNat, after)
    | _ => (c.toNat, [])
  else if c = 'u' then (unicodeEscape? rest).getD (c.toNat, rest)
  else (c.toNat, rest)

/-- The shorthand for a class of characters. -/
def shorthand? (c : Char) : Option ClassPart :=
  if c = 'd' then some (.digit false)
  else if c = 'D' then some (.digit true)
  else if c = 's' then some (.space false)
  else if c = 'S' then some (.space true)
  else if c = 'w' then some (.word false)
  else if c = 'W' then some (.word true)
  else none

/-- An escape outside of classes, after the backslash. -/
def escape (o : PatternOutline) (s : List Char) : PatternToken × List Char :=
  match s with
  | [] => (.fault "Incomplete escape", [])
  | c :: rest =>
    if c = 'b' then (.wordBoundary false, rest)
    else if c = 'B' then (.wordBoundary true, rest)
    else if c = 'c' then
      match rest with
      | d :: after => if isLetter d then (.char (d.toNat % 32), after) else (.char '\\'.toNat, s)
      | [] => (.char '\\'.toNat, s)
    else if c = 'k' && !o.names.isEmpty then
      match groupName? rest with
      | none => (.fault "Unexpected end of named backreference", [])
      | some (name, after) =>
        match o.names.lookup name with
        | some before => (.reference (before + 1), after)
        | none => (.fault ("Backreference to invalid named capture group: " ++ name), [])
    else
      match shorthand? c with
      | some part => (.shorthand part, rest)
      | none =>
        let spelled : PatternToken × List Char :=
          let (code, after) := characterEscape c rest
          (.char code, after)
        if '1' ≤ c && c ≤ '9' then
          match decimal? s with
          | some (n, after) => if n ≤ o.brackets then (.reference n, after) else spelled
          | none => spelled
        else spelled

/-- An atom of a character class; a single character has its code as a range. -/
def classAtom (c : Char) (rest : List Char) : Except String (ClassPart × List Char) :=
  if c = '\\' then
    match rest with
    | [] => .error "Unterminated escape"
    | e :: after =>
      if e = 'b' then .ok (.range 8 8, after)
      else if e = 'c' then
        match after with
        | d :: further =>
          if isLetter d || isDigit d || d = '_' then
            .ok (.range (d.toNat % 32) (d.toNat % 32), further)
          else .ok (.range c.toNat c.toNat, rest)
        | [] => .ok (.range c.toNat c.toNat, rest)
      else
        match shorthand? e with
        | some part => .ok (part, after)
        | none =>
          let (code, further) := characterEscape e after
          .ok (.range code code, further)
  else .ok (.range c.toNat c.toNat, rest)

def dash : ClassPart := .range '-'.toNat '-'.toNat

/-- The parts of a class up to its closing bracket. A dash between two single characters makes a
range; next to a shorthand it stands for itself. -/
def classParts (seen : List ClassPart) :
    Nat → List Char → Except String (List ClassPart × List Char)
  | 0, _ => .error "Unbalanced bracket"
  | fuel + 1, s =>
    match s with
    | [] => .error "Unbalanced bracket"
    | ']' :: rest => .ok (seen.reverse, rest)
    | c :: rest => do
      let (first, rest) ← classAtom c rest
      match rest with
      | '-' :: rest =>
        match rest with
        | [] => classParts (dash :: first :: seen) fuel rest
        | ']' :: _ => classParts (dash :: first :: seen) fuel rest
        | d :: rest => do
          let (second, rest) ← classAtom d rest
          match first, second with
          | .range low _, .range high _ =>
            if high < low then
              .error "Range values reversed, start char code is greater than end char code."
            else classParts (.range low high :: seen) fuel rest
          | _, _ => classParts (second :: dash :: first :: seen) fuel rest
      | _ => classParts (first :: seen) fuel rest

def classToken (s : List Char) : PatternToken × List Char :=
  let (negated, s) := match s with
    | '^' :: rest => (true, rest)
    | _ => (false, s)
  match classParts [] s.length.succ s with
  | .ok (parts, rest) => (.set negated parts, rest)
  | .error message => (.fault message, [])

/-- The flags a group switches, up to the colon; each letter may occur once. -/
def flagSwitch (on off : List Char) (minus : Bool) : List Char → PatternToken × List Char
  | c :: rest =>
    if c = ':' then
      if on.isEmpty && off.isEmpty then (.fault "Invalid group modifier", [])
      else (.open (.flags on off), rest)
    else if c = '-' && !minus then flagSwitch on off true rest
    else if (c = 'i' || c = 'm' || c = 's') && !on.contains c && !off.contains c then
      if minus then flagSwitch on (c :: off) minus rest else flagSwitch (c :: on) off minus rest
    else (.fault "Invalid group modifier", [])
  | [] => (.fault "Invalid group modifier", [])

/-- An open bracket and what belongs to it. -/
def openToken : List Char → PatternToken × List Char
  | '?' :: '=' :: rest => (.open (.look false false), rest)
  | '?' :: '!' :: rest => (.open (.look false true), rest)
  | '?' :: '<' :: '=' :: rest => (.open (.look true false), rest)
  | '?' :: '<' :: '!' :: rest => (.open (.look true true), rest)
  | '?' :: ':' :: rest => (.open .plain, rest)
  | '?' :: '<' :: rest =>
    match groupName? ('<' :: rest) with
    | some (_, after) => (.open .capture, after)
    | none => (.fault "Invalid token at named capture group identifier", [])
  | '?' :: rest => flagSwitch [] [] false rest
  | rest => (.open .capture, rest)

/-- The next token of a pattern that goes on with the given character. -/
def token (o : PatternOutline) (c : Char) (rest : List Char) : PatternToken × List Char :=
  if c = '\\' then escape o rest
  else if c = '.' then (.any, rest)
  else if c = '[' then classToken rest
  else if c = '(' then openToken rest
  else if c = ')' then (.close, rest)
  else if c = '|' then (.bar, rest)
  else if c = '^' then (.lineStart, rest)
  else if c = '$' then (.lineEnd, rest)
  else if c = '*' then quantified 0 none false rest
  else if c = '+' then quantified 1 none false rest
  else if c = '?' then quantified 0 (some 1) false rest
  else if c = '{' then
    match braced? rest with
    | some (min, max, after) => quantified min max true after
    | none => (.char c.toNat, rest)
  else (.char c.toNat, rest)

/-- All tokens; every one takes a character, so the length of the text bounds their number. -/
def tokens (o : PatternOutline) : Nat → List Char → List PatternToken
  | 0, _ => []
  | _, [] => []
  | fuel + 1, c :: rest =>
    let (t, rest) := token o c rest
    t :: tokens o fuel rest

end PatternScan
end RecordShape
