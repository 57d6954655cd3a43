/-!
# Sets of code points

A Unicode property is a set of code points, published as a sorted list of closed intervals.  A
`CodeSet` keeps such a list as a search tree, so that a membership test follows one path of the
tree instead of walking the whole list.

The tree is built by a recursion on its depth and searched by a recursion on the tree, so both
reduce by plain evaluation.
-/

namespace LiteralLexer.Unicode

/-- A set of code points: a search tree whose nodes are the closed intervals `lo..hi`. -/
inductive CodeSet where
  | empty
  | node (left : CodeSet) (lo hi : Nat) (right : CodeSet)

namespace CodeSet

/-- Whether a code point lies in one of the intervals. -/
def contains : CodeSet → Nat → Bool
  | .empty, _ => false
  | .node left lo hi right, n =>
    if n < lo then left.contains n else if hi < n then right.contains n else true

/-- The tree of at most the given depth that holds as many of the leading intervals as fit, and
the intervals that are left over. -/
def build : Nat → List (Nat × Nat) → CodeSet × List (Nat × Nat)
  | 0, ranges => (.empty, ranges)
  | depth + 1, ranges =>
    let (left, afterLeft) := build depth ranges
    match afterLeft with
    | [] => (left, [])
    | (lo, hi) :: afterNode =>
      let (right, rest) := build depth afterNode
      (.node left lo hi right, rest)

/-- The set of the code points in a sorted list of disjoint intervals.  A tree of depth `d` holds
`2 ^ d - 1` intervals, so one level more than the logarithm of their number is enough. -/
def ofRanges (ranges : List (Nat × Nat)) : CodeSet :=
  (build (ranges.length.log2 + 1) ranges).1

/-- Nothing is in the empty set. -/
@[simp] theorem contains_empty (n : Nat) : CodeSet.empty.contains n = false := rfl

end CodeSet

end LiteralLexer.Unicode
