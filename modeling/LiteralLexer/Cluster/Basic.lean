import LiteralLexer.Unicode.Category

/-!
# Clusters and their classes

A `Cluster` is what a reader perceives as one character: a code point together with the marks,
joiners and further code points that belong to it.  Positions, columns and lengths all count
clusters.

A cluster belongs to a class as soon as *any* of its code points does, so a letter under an accent
is still a letter.  The classes may overlap: a space that carries an accent is both whitespace and
a letter.  Only `isDigit` asks for a single code point.
-/

namespace LiteralLexer

/-! ## Classes of code points -/

namespace Unicode

/-- A tabulator or a space separator. -/
def isWhitespace (c : Char) : Bool :=
  if c.toNat < 0x80 then c = '\t' || c = ' ' else spaceSeparator.contains c.toNat

/-- One of the seven characters that end a line: line feed, vertical tabulator, form feed, carriage
return, next line, line separator and paragraph separator. -/
def isNewline (c : Char) : Bool :=
  (0x0A ≤ c.toNat && c.toNat ≤ 0x0D) || c.toNat = 0x85 || c.toNat = 0x2028 || c.toNat = 0x2029

/-- A letter or a mark. -/
def isLetter (c : Char) : Bool :=
  if c.toNat < 0x80 then c.isAlpha else letterOrMark.contains c.toNat

/-- A letter, a mark or a number. -/
def isAlphanumeric (c : Char) : Bool :=
  if c.toNat < 0x80 then c.isAlphanum
  else letterOrMark.contains c.toNat || number.contains c.toNat

end Unicode

/-! ## Clusters -/

/-- An extended grapheme cluster: its first code point and those that continue it. -/
structure Cluster where
  head : Char
  tail : List Char := []
  deriving DecidableEq, Repr, Inhabited

namespace Cluster

/-- The cluster of one code point. -/
def single (c : Char) : Cluster := { head := c }

instance : Coe Char Cluster := ⟨single⟩

/-- The code points of a cluster. -/
def toList (c : Cluster) : List Char := c.head :: c.tail

/-- The text of a cluster. -/
def text (c : Cluster) : String := String.ofList c.toList

/-- Some code point of the cluster is whitespace. -/
def isWhitespace (c : Cluster) : Bool := c.toList.any Unicode.isWhitespace

/-- Some code point of the cluster ends a line. -/
def isNewline (c : Cluster) : Bool := c.toList.any Unicode.isNewline

/-- Some code point of the cluster is a letter or a mark. -/
def isLetter (c : Cluster) : Bool := c.toList.any Unicode.isLetter

/-- Some code point of the cluster is a letter, a mark or a number. -/
def isAlphanumeric (c : Cluster) : Bool := c.toList.any Unicode.isAlphanumeric

/-- The cluster is a single decimal digit of ASCII. -/
def isDigit (c : Cluster) : Bool := c.tail.isEmpty && c.head.isDigit

/-- The code points of a run of clusters, in order. -/
def join (cs : List Cluster) : List Char := cs.flatMap toList

/-- The text of a run of clusters. -/
def joinText (cs : List Cluster) : String := String.ofList (join cs)

@[simp] theorem join_nil : join [] = [] := rfl

@[simp] theorem join_cons (c : Cluster) (cs : List Cluster) :
    join (c :: cs) = c.toList ++ join cs := rfl

@[simp] theorem join_append (cs ds : List Cluster) : join (cs ++ ds) = join cs ++ join ds :=
  List.flatMap_append

@[simp] theorem toList_single (c : Char) : (single c).toList = [c] := rfl

end Cluster

end LiteralLexer
