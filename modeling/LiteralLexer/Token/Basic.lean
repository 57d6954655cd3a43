import LiteralLexer.Binary64.Basic

/-!
# Tokens

A `Token` is a literal of the text with its payload, or one of the two marks of its layout.  Text
payloads are held without their delimiters.
-/

namespace LiteralLexer

/-- The kinds of tokens. -/
inductive TokenKind where
  | endOfInput
  | newLine
  | comment
  | boolean
  | integer
  | floatingPoint
  | character
  | uninterpolatedString
  | flag
  | undefined
  deriving DecidableEq, Repr

namespace TokenKind

/-- All kinds: layout, literals, and the kind of what no transform claims. -/
def all : List TokenKind :=
  [.endOfInput, .newLine, .comment, .boolean, .integer, .floatingPoint, .character,
    .uninterpolatedString, .flag, .undefined]

/-- The name of a kind in records. -/
def tag : TokenKind → String
  | .endOfInput => "END_OF_INPUT"
  | .newLine => "NEW_LINE"
  | .comment => "COMMENT"
  | .boolean => "BOOLEAN"
  | .integer => "INTEGER"
  | .floatingPoint => "FLOATING_POINT"
  | .character => "CHARACTER"
  | .uninterpolatedString => "UNINTERPOLATED_STRING"
  | .flag => "FLAG"
  | .undefined => "UNDEFINED"

/-- The name of a kind in running text. -/
def label : TokenKind → String
  | .endOfInput => "endOfInput"
  | .newLine => "newLine"
  | .comment => "comment"
  | .boolean => "boolean"
  | .integer => "integer"
  | .floatingPoint => "floatingPoint"
  | .character => "character"
  | .uninterpolatedString => "uninterpolatedString"
  | .flag => "flag"
  | .undefined => "undefined"

end TokenKind

/-- A token. -/
inductive Token where
  /-- The text is exhausted. -/
  | endOfInput
  /-- One newline. -/
  | newLine
  /-- A comment without its delimiters. -/
  | comment (body : String)
  | boolean (value : Bool)
  /-- A signed 64-bit integer. -/
  | integer (value : Int)
  | floatingPoint (value : Binary64)
  /-- One cluster between single quotes. -/
  | character (value : String)
  /-- Text between double quotes. -/
  | uninterpolatedString (value : String)
  /-- A flag without its leading `-`. -/
  | flag (name : String)
  /-- A cluster that no transform claims. -/
  | undefined (value : String)
  deriving DecidableEq, Repr, Inhabited

namespace Token

/-- The kind of a token. -/
def kind : Token → TokenKind
  | .endOfInput => .endOfInput
  | .newLine => .newLine
  | .comment _ => .comment
  | .boolean _ => .boolean
  | .integer _ => .integer
  | .floatingPoint _ => .floatingPoint
  | .character _ => .character
  | .uninterpolatedString _ => .uninterpolatedString
  | .flag _ => .flag
  | .undefined _ => .undefined

/-- Whether a token is a comment. -/
def isComment (t : Token) : Bool := t.kind = .comment

/-- The same kind and an equal payload.  Floating-point payloads compare as numbers. -/
def same : Token → Token → Bool
  | .floatingPoint x, .floatingPoint y => x.same y
  | s, t => s = t

end Token

end LiteralLexer
