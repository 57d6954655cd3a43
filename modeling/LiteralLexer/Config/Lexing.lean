import LiteralLexer.Config.Basic
import LiteralLexer.Lexer.Tokenize
import LiteralLexer.Token.Printer

/-!
# Lexing under a configuration

What a configuration does with a text: the tokens, the text that is printed for them, and the report
on a text that cannot be lexed.
-/

namespace LiteralLexer

namespace Config

/-- The lexer that a configuration asks for. -/
def lexerOptions (c : Config) : LexerOptions where
  stages := c.transforms.map .builtin
  sentinel := c.sentinel

/-- The tokens of a text. -/
def tokenize (c : Config) (text : String) : Except LexFailure (List Token) :=
  LiteralLexer.tokenize text c.lexerOptions c.includeComments

/-- The tokens of a text, printed.  Comments are kept only if both the configuration and the caller
allow them. -/
def printTokens (c : Config) (text : String) (format : OutputFormat) (includeComments : Bool) :
    Except LexFailure String := do
  let restricted := { c with includeComments := c.includeComments && includeComments }
  return format.print (← restricted.tokenize text)

end Config

/-- The report on a text that could not be lexed. -/
def LexFailure.report (failure : LexFailure) (source : String) : Except ReportError String :=
  match failure with
  | .malformed fault => fault.toDiagnostic.report source
  | _ => .ok failure.message

end LiteralLexer
