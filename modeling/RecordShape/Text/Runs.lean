/-!
# Sets of characters as runs

A set of code points is the increasing array of the places where membership changes. A code point
belongs to it when an odd number of these places is at or below it.
-/

namespace RecordShape.Runs

/-- How many of `bounds[lo], …, bounds[hi - 1]` are at most `x`, added to `lo`. -/
def countFrom (bounds : Array Nat) (x lo hi : Nat) : Nat :=
  if h : lo < hi then
    let mid := (lo + hi) / 2
    if bounds.getD mid 0 ≤ x then countFrom bounds x (mid + 1) hi else countFrom bounds x lo mid
  else lo
termination_by hi - lo

def contains (bounds : Array Nat) (x : Nat) : Bool := countFrom bounds x 0 bounds.size % 2 == 1

end RecordShape.Runs
