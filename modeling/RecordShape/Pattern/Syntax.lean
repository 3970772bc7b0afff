/-!
# Expressions of a pattern

The syntax tree of a regular expression. Characters are code points; a pattern may name code
points that no text contains. Flags are settled where they apply.
-/

namespace RecordShape

/-- A part of a character class. -/
inductive ClassPart where
  | range (first last : Nat)
  | digit (negated : Bool)
  | space (negated : Bool)
  | word (negated : Bool)
  deriving DecidableEq

inductive Expression where
  | empty
  | char (code : Nat) (ignoreCase : Bool)
  /-- Any character; a line terminator only if `acrossLines`. -/
  | any (acrossLines : Bool)
  | set (negated : Bool) (parts : List ClassPart) (ignoreCase : Bool)
  | sequence (first second : Expression)
  | choice (first second : Expression)
  | group (index : Nat) (body : Expression)
  | reference (index : Nat) (ignoreCase : Bool)
  | lineStart (multiline : Bool)
  | lineEnd (multiline : Bool)
  | wordBoundary (negated : Bool)
  | look (behind negated : Bool) (body : Expression)
  /-- Repetition; the groups from `firstGroup` on and before `nextGroup` lie in the body. -/
  | loop (body : Expression) (min : Nat) (max : Option Nat) (greedy : Bool)
      (firstGroup nextGroup : Nat)
  deriving DecidableEq

namespace Expression

/-- The expressions one after another. -/
def ofSequence : List Expression → Expression
  | [] => empty
  | [e] => e
  | e :: es => sequence e (ofSequence es)

end Expression
end RecordShape
