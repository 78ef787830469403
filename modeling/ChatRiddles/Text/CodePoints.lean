/-!
# Sets of code points

A property of characters is given by the increasing list of the code points at which it changes.
A code point has the property iff the number of such changes at or below it is odd. The count is
found by bisection.
-/

namespace ChatRiddles.Text

/-- A set of code points: it begins at the first boundary, ends before the second, begins again at
the third, and so on. -/
structure CodePointSet where
  -- the code points at which membership changes, in increasing order
  boundaries : Array Nat

namespace CodePointSet

/-- The number of entries of an increasing array at or below `c`, given that it lies between `low`
and `high`. -/
def bisect (bs : Array Nat) (c low high : Nat) : Nat :=
  if low < high then
    let mid := (low + high) / 2
    if bs.getD mid 0 ≤ c then bisect bs c (mid + 1) high else bisect bs c low mid
  else low
termination_by high - low

/-- How many boundaries are at or below `c`. -/
def crossings (s : CodePointSet) (c : Nat) : Nat :=
  bisect s.boundaries c 0 s.boundaries.size

/-- Membership: an odd number of boundaries is at or below `c`. -/
def contains (s : CodePointSet) (c : Nat) : Bool :=
  s.crossings c % 2 == 1

/-- The last boundary at or below `c`, where the run of a member starts. -/
def runStart (s : CodePointSet) (c : Nat) : Nat :=
  s.boundaries.getD (s.crossings c - 1) 0

end CodePointSet

end ChatRiddles.Text
