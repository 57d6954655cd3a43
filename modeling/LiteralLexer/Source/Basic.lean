import LiteralLexer.Cluster.Segmentation
import LiteralLexer.Source.Fault

/-!
# Sources

A `Source` is a text ready to be read: its clusters, and a sentinel that stands for everything
behind them.  Since no cluster of the text equals the sentinel, a reader that meets the sentinel
knows that the text is exhausted.
-/

namespace LiteralLexer

/-- A text with a sentinel that does not occur in it. -/
structure Source where
  clusters : Array Cluster
  sentinel : Cluster
  sentinel_notMem : sentinel ∉ clusters.toList

namespace Source

/-- The sentinel unless asked otherwise: the character NUL. -/
def defaultSentinel : String := "\x00"

/-- The number of clusters. -/
def length (s : Source) : Nat := s.clusters.size

/-- The text of a source. -/
def text (s : Source) : String := Cluster.joinText s.clusters.toList

/-- The cluster with an index; outside the text it is the sentinel. -/
def clusterAt (s : Source) (index : Int) : Cluster :=
  if 0 ≤ index then s.clusters[index.toNat]?.getD s.sentinel else s.sentinel

/-- The place of the cluster with an index. -/
def locationAt (s : Source) (index : Int) : Location :=
  LiteralLexer.locationAt s.clusters.toList index

/-- The clusters of a text with a sentinel, unless the sentinel occurs among them. -/
def ofClusters (clusters : List Cluster) (sentinel : Cluster) : Except LexFailure Source :=
  if h : sentinel ∈ clusters then
    .error <| .malformed
      { fault := .sentinelInText sentinel.text
        location := LiteralLexer.locationAt clusters (clusters.idxOf sentinel) }
  else
    .ok { clusters := clusters.toArray, sentinel, sentinel_notMem := by simpa using h }

/-- Prepares a text for reading up to a sentinel. -/
def ofText (text sentinel : String) : Except LexFailure Source :=
  match Cluster.ofText? sentinel with
  | some cluster => ofClusters (Cluster.ofText text) cluster
  | none => .error (.sentinelNotSingle sentinel)

/-- Where an index of a slice points to: one below zero counts from the end, and all are held
within the text. -/
def sliceIndex (s : Source) (index : Int) : Nat :=
  if index < 0 then (index + s.length).toNat else min index.toNat s.length

/-- The text of the clusters from one index up to another. -/
def slice (s : Source) (start stop : Int) : String :=
  Cluster.joinText (s.clusters.extract (s.sliceIndex start) (s.sliceIndex stop)).toList

end Source

end LiteralLexer
