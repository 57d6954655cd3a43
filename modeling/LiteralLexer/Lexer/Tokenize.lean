import LiteralLexer.Lexer.Basic

/-!
# Whole texts

`tokenize` takes tokens from a lexer up to and including the end of the text.  A text of `n`
clusters has the positions `0..n + 1`, and a lexer that comes back to a position goes round in
circles for ever; so a run that ends takes at most `n + 2` steps.
-/

namespace LiteralLexer

namespace Lexer

/-- The tokens up to the end of the text, in at most `fuel` steps. -/
def tokensWithin : Nat → Lexer → Except LexFailure (List Token)
  | 0, _ => .error .endless
  | fuel + 1, l =>
    match l.nextToken with
    | (.error failure, _) => .error failure
    | (.ok .endOfInput, _) => .ok [.endOfInput]
    | (.ok token, l) => (tokensWithin fuel l).map (token :: ·)

/-- The tokens up to the end of the text. -/
def tokens (l : Lexer) : Except LexFailure (List Token) := l.tokensWithin (l.cursor.length + 2)

end Lexer

/-- Tokens without the comments among them, unless these are to stay. -/
def filterComments (includeComments : Bool) (tokens : List Token) : List Token :=
  if includeComments then tokens else tokens.filter (!·.isComment)

/-- The tokens of a text.  The last one is the end of the text. -/
def tokenize (text : String) (options : LexerOptions) (includeComments : Bool) :
    Except LexFailure (List Token) := do
  let lexer ← Lexer.ofText text options
  return filterComments includeComments (← lexer.tokens)

end LiteralLexer
