/-!
# Edit distance

The distance of two texts is the least number of insertions, deletions and substitutions that turn
one into the other, counted in units of UTF-16.  It is read off a table whose entry `(i, j)` is the
distance of the first `i` units of the shorter text to the first `j` units of the longer one.  The
table is filled in row by row, a row for each `j`.  Only two rows are kept, which change places after
each row, so a row is written over the row before the last one.
-/

namespace LiteralLexer.Suggestion

/-- The UTF-16 units of a character: one, or a pair of surrogates. -/
def units (c : Char) : List UInt16 :=
  if c.toNat < 0x10000 then [c.toNat.toUInt16]
  else
    let n := c.toNat - 0x10000
    [(0xD800 + n / 0x400).toUInt16, (0xDC00 + n % 0x400).toUInt16]

/-- The UTF-16 units of a text. -/
def textUnits (s : String) : List UInt16 := s.toList.flatMap units

/-- The two rows of the table that are kept. -/
structure Rows where
  /-- The last row that was filled in. -/
  filled : Array Nat
  /-- The row that is filled in next, and what was left in it. -/
  next : Array Nat
  deriving DecidableEq, Repr

namespace Rows

/-- The rows at the start, for a shorter text of the given length: nothing was read of the longer
text, so all units have to be deleted. -/
def start (width : Nat) : Rows where
  filled := Array.range (width + 1)
  next := Array.replicate (width + 1) 0

/-- Fills in the entry `i + 1` of the row `j + 1`, from the entries above it, to its left, and to the
left of the one above. -/
def write (short long : Array UInt16) (j : Nat) (rows : Rows) (i : Nat) : Rows :=
  let cost := if short[i]? = long[j]? then 0 else 1
  let entry := min (min (rows.filled.getD (i + 1) 0 + 1) (rows.next.getD i 0 + 1))
    (rows.filled.getD i 0 + cost)
  { rows with next := rows.next.setIfInBounds (i + 1) entry }

/-- Fills in the row `j + 1` from the left and lets the rows change places. -/
def advance (short long : Array UInt16) (rows : Rows) (j : Nat) : Rows :=
  let opened : Rows := { rows with next := rows.next.setIfInBounds 0 (j + 1) }
  let written := (List.range short.size).foldl (write short long j) opened
  { filled := written.next, next := written.filled }

end Rows

/-- The last entry of the table. -/
def tableDistance (short long : Array UInt16) : Nat :=
  let rows := (List.range long.size).foldl (Rows.advance short long) (Rows.start short.size)
  rows.filled.getD short.size 0

/-- The edit distance of two sequences of units.  The shorter one spans the rows. -/
def unitDistance (a b : List UInt16) : Nat :=
  let (short, long) := if b.length < a.length then (b, a) else (a, b)
  if short = [] then long.length
  else if long = [] then short.length
  else tableDistance short.toArray long.toArray

/-- The edit distance of two texts. -/
def distance (s t : String) : Nat := unitDistance (textUnits s) (textUnits t)

end LiteralLexer.Suggestion
