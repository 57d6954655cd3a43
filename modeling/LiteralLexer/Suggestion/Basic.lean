import LiteralLexer.Suggestion.Collation
import LiteralLexer.Suggestion.Distance

/-!
# Suggestions

For a name that is not known, the known names that are close to it: at most three, within two
edits, the closest first and equally close ones in alphabetical order.  The alphabetical order depends
on the language of the host, so it is a parameter; names that it does not tell apart keep their order.
-/

namespace LiteralLexer.Suggestion

/-- How many edits a suggestion may be away. -/
def maxDistance : Nat := 2

/-- How many suggestions are made. -/
def maxCount : Nat := 3

/-- A candidate with its distance. -/
structure Scored where
  name : String
  distance : Nat
  deriving DecidableEq, Repr

/-- Whether a candidate may stand before another: it is closer, or as close and not behind it in
the alphabet. -/
def Scored.before (order : String → String → Ordering) (a b : Scored) : Bool :=
  ((compare a.distance b.distance).then (order a.name b.name)).isLE

/-- The candidates within reach of a name, with their distances. -/
def scored (target : String) (candidates : List String) : List Scored :=
  (candidates.map fun name => ⟨name, distance target name⟩).filter (·.distance ≤ maxDistance)

/-- The best candidates for a name in an alphabetical order.  Nothing resembles the empty name. -/
def similarNamesBy (order : String → String → Ordering) (target : String)
    (candidates : List String) : List String :=
  if target = "" ∨ candidates = [] then []
  else
    (((scored target candidates).mergeSort (Scored.before order)).take maxCount).map (·.name)

/-- The best candidates for a name. -/
def similarNames (target : String) (candidates : List String) : List String :=
  similarNamesBy collate target candidates

end LiteralLexer.Suggestion
