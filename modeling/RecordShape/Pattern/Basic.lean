import RecordShape.Pattern.Parser
import RecordShape.Pattern.Matching

/-!
# Patterns

A pattern is a text together with the expression it stands for. Patterns with the same text are
equal.
-/

namespace RecordShape

structure Pattern where
  source : String
  expression : Expression
  valid : Expression.ofPattern source = .ok expression

namespace Pattern

/-- The pattern with a text, or what is wrong with the text. -/
def ofSource (source : String) : Except String Pattern :=
  match h : Expression.ofPattern source with
  | .ok expression => .ok ⟨source, expression, h⟩
  | .error message => .error message

theorem eq_of_source_eq {p q : Pattern} (h : p.source = q.source) : p = q := by
  obtain ⟨s, e, hs⟩ := p
  obtain ⟨t, f, ht⟩ := q
  subst h
  have : e = f := by simpa [hs] using ht
  subst this
  rfl

instance : DecidableEq Pattern := fun p q =>
  if h : p.source = q.source then isTrue (eq_of_source_eq h)
  else isFalse fun e => h (congrArg source e)

theorem ofSource_source (p : Pattern) : ofSource p.source = .ok p := by
  obtain ⟨source, expression, hvalid⟩ := p
  simp only [ofSource]
  split
  · rename_i other hother
    have hsame : other = expression := by simpa [hvalid] using hother.symm
    subst hsame
    rfl
  · rename_i message hmessage
    simp [hvalid] at hmessage

/-- The pattern matches somewhere in the text. -/
def occursIn (p : Pattern) (s : String) : Bool := p.expression.occursIn s

end Pattern
end RecordShape
