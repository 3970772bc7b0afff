import RecordShape.Pattern.Token

/-!
# Parsing a pattern

The tokens are put together from left to right. A build holds the alternatives and items of the
innermost open group; the groups around it wait on a stack. The first fault ends the parse.
-/

namespace RecordShape

/-- An item of a sequence; the groups from `firstGroup` on may lie in it. -/
structure PatternItem where
  expression : Expression
  firstGroup : Nat

/-- What a quantifier would apply to. -/
inductive QuantifierTarget where
  | nothing
  | fixed
  | item
  deriving DecidableEq

/-- The alternatives that are complete and the items of the current one, both reversed. -/
structure PatternLevel where
  alternatives : List Expression := []
  items : List PatternItem := []
  flags : PatternFlags := {}

/-- A group that is not closed yet: its kind, its number if it captures, and the level it is
an item of. -/
structure OpenGroup where
  kind : GroupKind
  number : Nat
  outer : PatternLevel

structure PatternBuild where
  level : PatternLevel := {}
  stack : List OpenGroup := []
  target : QuantifierTarget := .nothing
  groups : Nat := 0
  loops : Nat := 0

namespace PatternLevel

/-- The items of the current alternative as one expression. -/
def current (l : PatternLevel) : Expression :=
  .ofSequence (l.items.reverse.map PatternItem.expression)

def bar (l : PatternLevel) : PatternLevel :=
  { l with alternatives := l.current :: l.alternatives, items := [] }

/-- All alternatives as one expression. -/
def expression (l : PatternLevel) : Expression :=
  l.alternatives.foldl (fun later e => .choice e later) l.current

end PatternLevel

namespace PatternBuild

/-- How many groups, and how many loops, a pattern may have. -/
def partLimit : Nat := 65535

def push (b : PatternBuild) (e : Expression) (target : QuantifierTarget) : PatternBuild :=
  { b with
    level := { b.level with items := ⟨e, b.groups + 1⟩ :: b.level.items }
    target }

/-- The flags inside a group that switches some. -/
def switched (flags : PatternFlags) (on off : List Char) : PatternFlags :=
  let flag (c : Char) (now : Bool) : Bool := on.contains c || (now && !off.contains c)
  ⟨flag 'i' flags.ignoreCase, flag 'm' flags.multiline, flag 's' flags.acrossLines⟩

def openGroup (b : PatternBuild) (kind : GroupKind) : Except String PatternBuild :=
  let inside := match kind with
    | .flags on off => switched b.level.flags on off
    | _ => b.level.flags
  if kind.isCapture && partLimit ≤ b.groups then .error "Capture group count limit exceeded"
  else
    .ok { b with
      level := { flags := inside }
      stack := ⟨kind, b.groups + 1, b.level⟩ :: b.stack
      target := .nothing
      groups := if kind.isCapture then b.groups + 1 else b.groups }

def closeGroup (b : PatternBuild) : Except String PatternBuild :=
  match b.stack with
  | [] => .error "Unbalanced parenthesis"
  | g :: stack =>
    let body := b.level.expression
    let (e, target) : Expression × QuantifierTarget := match g.kind with
      | .capture => (.group g.number body, .item)
      | .plain | .flags _ _ => (body, .item)
      | .look behind negated => (.look behind negated body, if behind then .fixed else .item)
    .ok { b with
      level := { g.outer with items := ⟨e, g.number⟩ :: g.outer.items }
      stack
      target }

/-- Repeats the last item. -/
def quantify (b : PatternBuild) (q : Quantifier) (braced : Bool) : Except String PatternBuild :=
  match b.target, b.level.items with
  | .nothing, _ | .item, [] =>
    .error (if braced then "Invalid braced quantifier" else "Invalid atom character")
  | .fixed, _ => .error "Quantifier not allowed here"
  | .item, last :: items =>
    if q.max.any (· < q.min) then .error "Invalid quantifier"
    else if partLimit ≤ b.loops then .error "Loop count limit exceeded"
    else
      let loop : Expression :=
        .loop last.expression q.min q.max q.greedy last.firstGroup (b.groups + 1)
      .ok { b with
        level := { b.level with items := ⟨loop, last.firstGroup⟩ :: items }
        target := .nothing
        loops := b.loops + 1 }

def step (b : PatternBuild) : PatternToken → Except String PatternBuild
  | .char code => .ok (b.push (.char code b.level.flags.ignoreCase) .item)
  | .any => .ok (b.push (.any b.level.flags.acrossLines) .item)
  | .set negated parts => .ok (b.push (.set negated parts b.level.flags.ignoreCase) .item)
  | .shorthand part => .ok (b.push (.set false [part] false) .item)
  | .reference index => .ok (b.push (.reference index b.level.flags.ignoreCase) .item)
  | .lineStart => .ok (b.push (.lineStart b.level.flags.multiline) .fixed)
  | .lineEnd => .ok (b.push (.lineEnd b.level.flags.multiline) .fixed)
  | .wordBoundary negated => .ok (b.push (.wordBoundary negated) .item)
  | .open kind => b.openGroup kind
  | .close => b.closeGroup
  | .bar => .ok { b with level := b.level.bar, target := .nothing }
  | .repeat q braced => b.quantify q braced
  | .fault message => .error message

def finish (b : PatternBuild) : Except String Expression :=
  if b.stack.isEmpty then .ok b.level.expression else .error "Unbalanced parenthesis"

end PatternBuild

/-- The expression a pattern stands for, or what is wrong with it. -/
def Expression.ofPattern (source : String) : Except String Expression := do
  let s := source.toList
  let outline ← PatternScan.outline s
  let build ← (PatternScan.tokens outline s.length s).foldlM PatternBuild.step {}
  build.finish

end RecordShape
