import LiteralLexer.Binary64.Shortest
import LiteralLexer.Source.Basic

/-!
# Cursors

A `Cursor` is a source with a position.  Reading with a stride looks at the cluster that many
places ahead, where stride 1 is the cluster at the position itself; behind the text it finds the
sentinel.  A consuming read moves past what it looked at, as long as that is at most the sentinel
right behind the text.  So the cursor steps once into the exhausted position `length + 1`, and
further reads leave it there.

Hosts hand in strides and positions as numbers, which are checked first; `rewind` is not checked.
-/

namespace LiteralLexer

/-- A source with a position. -/
structure Cursor where
  source : Source
  position : Int := 0

/-- Why a stride or a position was refused. -/
inductive CursorError where
  | badStride (stride : Binary64)
  | badPosition (length : Nat) (position : Binary64)
  deriving DecidableEq, Repr

/-- The message of a refusal. -/
def CursorError.message : CursorError → String
  | .badStride stride => "stride must be an integer >= 1, got " ++ stride.text
  | .badPosition length position =>
    "position must be an integer in 0.." ++ toString length ++ ", got " ++ position.text

namespace Cursor

/-- The number of clusters of the text. -/
def length (c : Cursor) : Nat := c.source.length

/-- The cluster `stride` places ahead. -/
def peek (c : Cursor) (stride : Nat) : Cluster :=
  c.source.clusterAt (c.position + stride - 1)

/-- The cluster `stride` places ahead, and the cursor behind it. -/
def advance (c : Cursor) (stride : Nat) : Cluster × Cursor :=
  (c.peek stride,
    if c.position + stride - 1 ≤ c.length then { c with position := c.position + stride } else c)

/-- The cluster at the position, and the cursor behind it. -/
def next (c : Cursor) : Cluster × Cursor := c.advance 1

/-- Steps back, or forward for a negative count, without any check. -/
def rewind (c : Cursor) (count : Int) : Cursor := { c with position := c.position - count }

/-- Holds the position within the text. -/
def cap (c : Cursor) : Cursor := { c with position := min c.position c.length }

/-- How many times a consuming read can still move the cursor. -/
def remaining (c : Cursor) : Nat := (c.length + 1 - c.position).toNat

/-- The text of the clusters from one index up to another. -/
def slice (c : Cursor) (start stop : Int) : String := c.source.slice start stop

/-- The place of the cluster with an index. -/
def locationAt (c : Cursor) (index : Int) : Location := c.source.locationAt index

/-! ## Checked numbers -/

/-- A number as a stride: a whole number from 1. -/
def checkStride (stride : Binary64) : Except CursorError Nat :=
  match stride.toInt? with
  | some n => if 1 ≤ n then .ok n.toNat else .error (.badStride stride)
  | none => .error (.badStride stride)

/-- Reads with a stride given as a number, without moving if `keep` is set. -/
def read (c : Cursor) (stride : Binary64) (keep : Bool) : Except CursorError (Cluster × Cursor) := do
  let n ← checkStride stride
  return if keep then (c.peek n, c) else c.advance n

/-- Moves to a position given as a number: a whole number from 0 to the length of the text. -/
def seek (c : Cursor) (position : Binary64) : Except CursorError Cursor :=
  match position.toInt? with
  | some n =>
    if 0 ≤ n ∧ n ≤ c.length then .ok { c with position := n }
    else .error (.badPosition c.length position)
  | none => .error (.badPosition c.length position)

end Cursor

end LiteralLexer
