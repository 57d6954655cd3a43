import LiteralLexer.Text.Digits
import LiteralLexer.Text.Units

/-!
# Lexemes

The pieces that a document is cut into: indicators, blanks, line breaks, comments, properties and
the texts of scalars.  Apart from the text of a scalar, a piece shows its kind by its first
characters.  A piece that has its place in the document is a `Lexeme`.
-/

namespace LiteralLexer.Yaml

/-! ## Characters -/

/-- A blank inside a line. -/
def isBlank (c : Char) : Bool := c = ' ' || c = '\t'

/-- A blank or a line break. -/
def isSeparator (c : Char) : Bool := isBlank c || c = '\n' || c = '\r'

/-- One of the characters that structure a flow collection. -/
def isFlowIndicator (c : Char) : Bool := c ∈ [',', '[', ']', '\x7b', '\x7d']

/-- The characters of a name of an anchor. -/
def isNameChar (c : Char) : Bool := !isSeparator c && !isFlowIndicator c

/-- The characters of a tag, apart from those written with a percent sign. -/
def isTagChar (c : Char) : Bool := c.isAlphanum || c ∈ "-#;/?:@&=+$_.!~*'()".toList

/-- Whether nothing or a separator stands here. -/
def endsWord (c : Option Char) : Bool := c.all isSeparator

/-! ## Pieces -/

/-- What a piece is. -/
inductive LexemeKind where
  | byteOrderMark
  /-- A document starts here without a marker. -/
  | implicitDocument
  /-- A flow collection ends here for lack of indentation. -/
  | flowBroken
  /-- A plain text, or the lines of a block scalar. -/
  | scalar
  | documentStart
  | documentEnd
  | newline
  /-- A dash. -/
  | entry
  /-- A question mark. -/
  | explicitKey
  /-- A colon. -/
  | value
  | openMapping
  | closeMapping
  | openSequence
  | closeSequence
  | comma
  | space
  | comment
  | directive
  | reference
  | anchor
  | tag
  | singleQuoted
  | doubleQuoted
  | blockHeader
  | unknown
  deriving DecidableEq, Repr

namespace LexemeKind

/-- The kind that the text of a piece shows. -/
def ofText (text : List Char) : LexemeKind :=
  match text with
  | ['\ufeff'] => .byteOrderMark
  | ['-', '-', '-'] => .documentStart
  | ['.', '.', '.'] => .documentEnd
  | [] | ['\n'] | ['\r', '\n'] => .newline
  | ['-'] => .entry
  | ['?'] => .explicitKey
  | [':'] => .value
  | ['\x7b'] => .openMapping
  | ['\x7d'] => .closeMapping
  | ['['] => .openSequence
  | [']'] => .closeSequence
  | [','] => .comma
  | ' ' :: _ | '\t' :: _ => .space
  | '#' :: _ => .comment
  | '%' :: _ => .directive
  | '*' :: _ => .reference
  | '&' :: _ => .anchor
  | '!' :: _ => .tag
  | '\'' :: _ => .singleQuoted
  | '"' :: _ => .doubleQuoted
  | '|' :: _ | '>' :: _ => .blockHeader
  | _ => .unknown

/-- Blanks, comments and line breaks, which carry no content. -/
def isTrivia : LexemeKind → Bool
  | .space | .comment | .newline => true
  | _ => false

end LexemeKind

/-- A piece of a document. -/
structure Piece where
  kind : LexemeKind
  text : List Char
  deriving DecidableEq, Repr

/-- A piece with its place: the units before it in the document, and the indentation of what it
belongs to. -/
structure Lexeme extends Piece where
  offset : Nat
  indent : Nat
  deriving DecidableEq, Repr

namespace Lexeme

/-- How many units the lexeme takes. -/
def width (l : Lexeme) : Nat := Text.unitCount l.text

/-- The place behind the lexeme. -/
def stop (l : Lexeme) : Nat := l.offset + l.width

/-- Whether one of the lexemes is of a kind. -/
def includes (kind : LexemeKind) (ls : List Lexeme) : Bool := ls.any (·.kind = kind)

/-- Whether the lexemes carry no content. -/
def allTrivia (ls : List Lexeme) : Bool := ls.all (·.kind.isTrivia)

end Lexeme

end LiteralLexer.Yaml
