/-!
# Sets of code points

A property of characters is kept as the closed ranges of its members, in
increasing order and apart from one another, so that membership is a binary
search.  The tables that use this type stand one property a module.
-/

namespace AgentConsole.Unicode

/-- A set of code points: closed ranges, increasing and disjoint. -/
structure CodeSet where
  ranges : Array (Nat × Nat)

namespace CodeSet

/-- Is `n` in one of the ranges whose index lies in `[lo, hi)`? -/
def search (s : CodeSet) (n lo hi : Nat) : Bool :=
  if lo < hi then
    let mid := (lo + hi) / 2
    match s.ranges[mid]? with
    | none => false
    | some (first, last) =>
      if n < first then s.search n lo mid
      else if last < n then s.search n (mid + 1) hi
      else true
  else false
termination_by hi - lo
decreasing_by all_goals omega

/-- Membership of a character. -/
def contains (s : CodeSet) (c : Char) : Bool :=
  s.search c.toNat 0 s.ranges.size

end CodeSet

end AgentConsole.Unicode
