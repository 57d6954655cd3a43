/-!
# Alphabetical order

Texts are ordered first without regard to case: blanks come before punctuation, punctuation before
symbols, then digits and letters.  Texts that differ only in case are ordered by the first letter
that differs, the small one first.
-/

namespace LiteralLexer.Suggestion

/-- Punctuation and symbols, in order. -/
def punctuation : List Char := "_-,;:!?.'\"()[]\x7b\x7d@*/\\&#%`^+<=>|~$".toList

/-- The rank of a character without regard to case.  What is not ASCII comes last. -/
def rank (c : Char) : Nat :=
  if c.isDigit then 0x80 + c.toNat
  else if c.isAlpha then 0x100 + c.toLower.toNat
  else if c.toNat < 0x80 then
    match punctuation.idxOf? c with
    | some i => 0x40 + i
    | none => c.toNat
  else 0x200 + c.toNat

/-- What the order compares: the ranks of all characters, and then which of them are capitals. -/
def collationKey (s : String) : List Nat × List Nat :=
  (s.toList.map rank, s.toList.map fun c => if c.isUpper then 1 else 0)

/-- The alphabetical order. -/
def collate (s t : String) : Ordering :=
  (compare (collationKey s).1 (collationKey t).1).then
    (compare (collationKey s).2 (collationKey t).2)

end LiteralLexer.Suggestion
