import LiteralLexer.Source.Cursor
import LiteralLexer.Token.Basic

/-!
# Reading with one cluster of look-ahead

A `Reading` is a cursor together with the cluster it read last, the *current* one.  A recognizer
gets a reading whose current cluster may begin a literal.  It declines, accepts with a token and a
reading whose current cluster is the one behind the literal, or rejects the text.

`Reading.span` is the loop behind most recognizers: it reads on while a property holds of the
current cluster.  The cursor can move only `remaining` times, which bounds the loop.
-/

namespace LiteralLexer

/-- A cursor and the cluster that it read last. -/
structure Reading where
  cursor : Cursor
  current : Cluster

namespace Reading

/-- Reads the first cluster at a cursor. -/
def start (cursor : Cursor) : Reading :=
  let (current, cursor) := cursor.next
  { cursor, current }

/-- Reads the next cluster. -/
def next (r : Reading) : Reading := start r.cursor

/-- Reads the cluster `stride` places ahead. -/
def advance (r : Reading) (stride : Nat) : Reading :=
  let (current, cursor) := r.cursor.advance stride
  { cursor, current }

/-- The cluster `distance` places behind the current one, without reading it. -/
def ahead (r : Reading) : Nat → Cluster
  | 0 => r.current
  | distance => r.cursor.peek distance

/-- The cluster that stands for the end of the text. -/
def sentinel (r : Reading) : Cluster := r.cursor.source.sentinel

/-- The index of the current cluster. -/
def index (r : Reading) : Int := r.cursor.position - 1

/-- The place of the current cluster. -/
def location (r : Reading) : Location := r.cursor.locationAt r.index

/-- Reads on while `keep` holds of the current cluster, at most `fuel` times. -/
def spanWithin (keep : Cluster → Bool) : Nat → Reading → List Cluster × Reading
  | 0, r => ([], r)
  | fuel + 1, r =>
    if keep r.current then
      let (run, rest) := spanWithin keep fuel r.next
      (r.current :: run, rest)
    else ([], r)

/-- Reads on while `keep` holds of the current cluster: the clusters that were read over, and the
reading at the first one that was not. -/
def span (r : Reading) (keep : Cluster → Bool) : List Cluster × Reading :=
  r.spanWithin keep (r.cursor.remaining + 1)

/-- The text from the current cluster up to the current cluster of a later reading. -/
def textUntil (r later : Reading) : String := r.cursor.slice r.index later.index

/-- The current cluster and those after it spell a word, one cluster a letter. -/
def spells (r : Reading) (word : String) : Bool :=
  (List.range word.toList.length).map r.ahead = word.toList.map Cluster.single

end Reading

/-- What a recognizer makes of the current cluster and those after it. -/
inductive Verdict where
  /-- No literal begins here.  The reading may have moved over blanks. -/
  | decline (reading : Reading)
  /-- A literal was read; the current cluster is the one behind it. -/
  | accept (token : Token) (reading : Reading)
  /-- A literal begins here but is malformed. -/
  | reject (failure : LexFailure) (reading : Reading)

/-- A recognizer of one family of tokens. -/
abbrev Recognizer := Reading → Verdict

/-- Rejects the literal that begins at one reading and was read up to another. -/
def Verdict.fault (start : Reading) (fault : Fault) (reading : Reading) : Verdict :=
  .reject (.malformed { fault, location := start.location }) reading

end LiteralLexer
