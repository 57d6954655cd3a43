/-!
# White space

The characters that count as white space at the ends of a text: blanks of all widths and everything
that ends a line.
-/

namespace LiteralLexer.Text

/-- A character that ends a line. -/
def isLineEnd (c : Char) : Bool := c ∈ ['\n', '\r', '\u2028', '\u2029']

/-- White space. -/
def isWhite (c : Char) : Bool :=
  isLineEnd c || c ∈ [' ', '\t', '\x0b', '\x0c', '\u00a0', '\u1680', '\u202f', '\u205f', '\u3000',
    '\ufeff'] || '\u2000' ≤ c && c ≤ '\u200a'

/-- A text without the white space at its front. -/
def trimStart (cs : List Char) : List Char := cs.dropWhile isWhite

/-- A text without the white space at its ends. -/
def trim (cs : List Char) : List Char := (trimStart (trimStart cs).reverse).reverse

end LiteralLexer.Text
