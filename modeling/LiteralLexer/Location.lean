import LiteralLexer.Cluster.Basic

/-!
# Locations and lines

A location counts lines and columns from 1 and offsets from 0, in clusters.  Two views of the same
text have to agree on where a line ends: `locationAt` walks over the clusters before a place, and
`Cluster.lines` cuts the text into its lines.  Both ask `Cluster.isNewline` and nothing else.
-/

namespace LiteralLexer

/-- A place in a text.  Hosts may hand in places of their own, so the fields are not bound to any
text. -/
structure Location where
  line : Int
  column : Int
  offset : Int
  deriving DecidableEq, Repr, Inhabited

/-- A stretch of text between two places. -/
structure Span where
  first : Location
  last : Location
  deriving DecidableEq, Repr

namespace Location

/-- The place before the first cluster. -/
def origin : Location := ⟨1, 1, 0⟩

/-- The place behind a cluster that stands at the given place. -/
def after (l : Location) (c : Cluster) : Location :=
  if c.isNewline then ⟨l.line + 1, 1, l.offset + 1⟩
  else ⟨l.line, l.column + 1, l.offset + 1⟩

end Location

/-- The place of the cluster with the given index.  An index before the text counts as its
beginning, one behind the text as its end. -/
def locationAt (cs : List Cluster) (index : Int) : Location :=
  (cs.take index.toNat).foldl Location.after Location.origin

/-- The lines of a text, without the newlines that end them.  There is one line more than there
are newlines. -/
def Cluster.lines : List Cluster → List (List Cluster)
  | [] => [[]]
  | c :: cs =>
    if c.isNewline then [] :: Cluster.lines cs
    else match Cluster.lines cs with
      | [] => [[c]]
      | line :: more => (c :: line) :: more

end LiteralLexer
