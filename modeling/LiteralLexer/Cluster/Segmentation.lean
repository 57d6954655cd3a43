import LiteralLexer.Cluster.Basic
import LiteralLexer.Unicode.Boundary

/-!
# Cutting a text into clusters

Where a cluster ends is decided from left to right.  A `Boundary` remembers what the rules need to
know about the code points of the cluster so far: the class of the last one, whether an odd number
of regional indicators stands at its end, how far an emoji sequence has got and how far an Indic
conjunct has got.  `Boundary.joins` then says whether the next code point continues the cluster.

`Cluster.join_segment` says that nothing is lost: the clusters of a text, one after the other, are that
text.
-/

namespace LiteralLexer

/-! ## Classes of code points at a boundary -/

/-- The part a code point plays at a cluster boundary. -/
inductive BreakClass where
  | carriageReturn
  | lineFeed
  | control
  | extend
  | joiner
  | regional
  | prepend
  | spacingMark
  /-- Leading consonant of a Hangul syllable. -/
  | leading
  /-- Vowel of a Hangul syllable. -/
  | vowel
  /-- Trailing consonant of a Hangul syllable. -/
  | trailing
  /-- A whole Hangul syllable without a trailing consonant. -/
  | openSyllable
  /-- A whole Hangul syllable with a trailing consonant. -/
  | closedSyllable
  | pictograph
  | other
  deriving DecidableEq, Repr

/-- The class of a code point.  Hangul is regular enough to be told by arithmetic: a block of
28 syllables starts with the open one. -/
def BreakClass.of (c : Char) : BreakClass :=
  let n := c.toNat
  if n < 0x80 then
    if n = 0x0D then .carriageReturn
    else if n = 0x0A then .lineFeed
    else if n < 0x20 || n = 0x7F then .control
    else .other
  else if n = 0x200D then .joiner
  else if 0x1100 ≤ n && n ≤ 0x115F || 0xA960 ≤ n && n ≤ 0xA97C then .leading
  else if 0x1160 ≤ n && n ≤ 0x11A7 || 0xD7B0 ≤ n && n ≤ 0xD7C6
      || n = 0x16D63 || 0x16D67 ≤ n && n ≤ 0x16D6A then .vowel
  else if 0x11A8 ≤ n && n ≤ 0x11FF || 0xD7CB ≤ n && n ≤ 0xD7FB then .trailing
  else if 0xAC00 ≤ n && n ≤ 0xD7A3 then
    if (n - 0xAC00) % 28 = 0 then .openSyllable else .closedSyllable
  else if 0x1F1E6 ≤ n && n ≤ 0x1F1FF then .regional
  else if Unicode.extend.contains n then .extend
  else if Unicode.spacingMark.contains n then .spacingMark
  else if Unicode.pictograph.contains n then .pictograph
  else if Unicode.control.contains n then .control
  else if Unicode.prepend.contains n then .prepend
  else .other

/-- The part a code point plays in an Indic conjunct. -/
inductive ConjunctRole where
  | consonant
  | linker
  /-- Stands between consonant and linker without separating them. -/
  | transparent
  | none
  deriving DecidableEq, Repr

/-- The conjunct role of a code point.  Every extender and the joiner is transparent, except for
the zero-width non-joiner, whose purpose is to keep consonants apart. -/
def ConjunctRole.of (c : Char) : ConjunctRole :=
  if c.toNat < 0x80 then .none
  else if Unicode.conjunctConsonant.contains c.toNat then .consonant
  else if Unicode.conjunctLinker.contains c.toNat then .linker
  else if c.toNat = 0x200C then .none
  else match BreakClass.of c with
    | .extend | .joiner => .transparent
    | _ => .none

/-! ## The boundary rules -/

/-- How far an emoji sequence at the end of the cluster has got. -/
inductive EmojiProgress where
  | none
  /-- A pictograph, possibly with extenders. -/
  | pictograph
  /-- The same, then a joiner. -/
  | joined
  deriving DecidableEq, Repr

/-- How far a conjunct at the end of the cluster has got. -/
inductive ConjunctProgress where
  | none
  /-- A consonant, possibly with transparent characters. -/
  | consonant
  /-- The same, with a linker among them. -/
  | linked
  deriving DecidableEq, Repr

/-- What the rules need to know of the cluster read so far. -/
structure Boundary where
  last : BreakClass
  oddRegionals : Bool
  emoji : EmojiProgress
  conjunct : ConjunctProgress
  deriving DecidableEq, Repr

namespace Boundary

/-- The state after the first code point of a cluster. -/
def start (c : Char) : Boundary where
  last := .of c
  oddRegionals := BreakClass.of c = .regional
  emoji := if BreakClass.of c = .pictograph then .pictograph else .none
  conjunct := if ConjunctRole.of c = .consonant then .consonant else .none

/-- The emoji progress after one more code point of the given class. -/
def stepEmoji : EmojiProgress → BreakClass → EmojiProgress
  | _, .pictograph => .pictograph
  | .pictograph, .extend => .pictograph
  | .pictograph, .joiner => .joined
  | _, _ => .none

/-- The conjunct progress after one more code point of the given role. -/
def stepConjunct : ConjunctProgress → ConjunctRole → ConjunctProgress
  | _, .consonant => .consonant
  | .none, _ => .none
  | _, .linker => .linked
  | progress, .transparent => progress
  | _, .none => .none

/-- The state after the cluster has taken in one more code point. -/
def push (b : Boundary) (c : Char) : Boundary where
  last := .of c
  oddRegionals := BreakClass.of c = .regional && !b.oddRegionals
  emoji := stepEmoji b.emoji (.of c)
  conjunct := stepConjunct b.conjunct (.of c)

/-- Whether a Hangul syllable goes on from a code point of one class to one of another. -/
def joinsHangul : BreakClass → BreakClass → Bool
  | .leading, .leading | .leading, .vowel => true
  | .leading, .openSyllable | .leading, .closedSyllable => true
  | .openSyllable, .vowel | .vowel, .vowel => true
  | .openSyllable, .trailing | .vowel, .trailing => true
  | .closedSyllable, .trailing | .trailing, .trailing => true
  | _, _ => false

/-- Whether the next code point continues the cluster.  A carriage return takes a line feed and
nothing else; controls stand alone; after that come syllables, extenders, conjuncts, emoji
sequences and pairs of regional indicators. -/
def joins (b : Boundary) (c : Char) : Bool :=
  match b.last, BreakClass.of c with
  | .carriageReturn, .lineFeed => true
  | .carriageReturn, _ | .lineFeed, _ | .control, _ => false
  | _, .carriageReturn | _, .lineFeed | _, .control => false
  | _, .extend | _, .joiner | _, .spacingMark => true
  | .prepend, _ => true
  | last, next =>
    joinsHangul last next
      || (b.conjunct = .linked && ConjunctRole.of c = .consonant)
      || (b.emoji = .joined && next = .pictograph)
      || (b.oddRegionals && next = .regional)

end Boundary

/-! ## Segmentation -/

namespace Cluster

/-- Reads on inside a cluster: the code points that still belong to it, and the clusters after. -/
def segmentFrom (b : Boundary) : List Char → List Char × List Cluster
  | [] => ([], [])
  | c :: cs =>
    if b.joins c then
      let (tail, more) := segmentFrom (b.push c) cs
      (c :: tail, more)
    else
      let (tail, more) := segmentFrom (.start c) cs
      ([], ⟨c, tail⟩ :: more)

/-- The clusters of a sequence of code points. -/
def segment : List Char → List Cluster
  | [] => []
  | c :: cs =>
    let (tail, more) := segmentFrom (.start c) cs
    ⟨c, tail⟩ :: more

/-- The clusters of a text. -/
def ofText (text : String) : List Cluster := segment text.toList

/-- A text that is exactly one cluster. -/
def ofText? (text : String) : Option Cluster :=
  match ofText text with
  | [c] => some c
  | _ => none

/-- The rest of a cluster and the clusters after it make up the rest of the text. -/
theorem segmentFrom_join (b : Boundary) (cs : List Char) :
    (segmentFrom b cs).1 ++ join (segmentFrom b cs).2 = cs := by
  induction cs generalizing b with
  | nil => rfl
  | cons c cs ih =>
    unfold segmentFrom
    split
    · simpa using ih (b.push c)
    · simpa [toList] using ih (.start c)

/-- Cutting a text loses nothing and reorders nothing. -/
theorem join_segment (cs : List Char) : join (segment cs) = cs := by
  cases cs with
  | nil => rfl
  | cons c cs => simpa [segment, toList] using segmentFrom_join (.start c) cs

end Cluster

end LiteralLexer
