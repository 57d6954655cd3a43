/-!
# The kinds of errors

Every error that the lexer reports has one of five kinds.  A kind has a code, under which the
command line explains it, and the texts of its documentation.
-/

namespace LiteralLexer

/-- The ways in which lexing can fail. -/
inductive ErrorKind where
  | unterminatedComment
  | malformedCharacter
  | unterminatedString
  | failedConversion
  | sentinelInText
  deriving DecidableEq, Repr, Inhabited

/-- An input that provokes an error, with a word on why. -/
structure ErrorExample where
  description : String
  code : String
  deriving DecidableEq, Repr

namespace ErrorKind

/-- All kinds, in the order of their codes. -/
def all : List ErrorKind :=
  [.unterminatedComment, .malformedCharacter, .unterminatedString, .failedConversion,
    .sentinelInText]

/-- The code of a kind. -/
def code : ErrorKind → String
  | .unterminatedComment => "LITLEX-L001"
  | .malformedCharacter => "LITLEX-L002"
  | .unterminatedString => "LITLEX-L003"
  | .failedConversion => "LITLEX-L004"
  | .sentinelInText => "LITLEX-L005"

/-- The name of a kind for programs that tell errors apart. -/
def name : ErrorKind → String
  | .unterminatedComment => "COMMENT_UNTERMINATED"
  | .malformedCharacter => "CHAR_LITERAL_MALFORMED"
  | .unterminatedString => "STRING_UNTERMINATED"
  | .failedConversion => "INTERNAL_CONVERSION_ERROR"
  | .sentinelInText => "SENTINEL_IN_INPUT"

/-- The kind in a few words. -/
def description : ErrorKind → String
  | .unterminatedComment => "Unterminated block comment"
  | .malformedCharacter => "Malformed character literal"
  | .unterminatedString => "Unterminated string literal"
  | .failedConversion => "Number conversion failed"
  | .sentinelInText => "Input contains the end-of-input sentinel"

/-- The message, with a named place for each detail. -/
def template : ErrorKind → String
  | .unterminatedComment => "Unterminated block comment: expected `*/`"
  | .malformedCharacter => "Malformed character literal: \x7breason\x7d"
  | .unterminatedString => "Unterminated string literal: expected closing `\"`"
  | .failedConversion => "Could not convert \x7bliteral\x7d to \x7btarget\x7d"
  | .sentinelInText => "Input contains the end-of-input sentinel \x7bsentinel\x7d"

/-- What leads to the error. -/
def cause : ErrorKind → String
  | .unterminatedComment => "A block comment opened with `/*` reached the end of input."
  | .malformedCharacter =>
    "A character literal must hold exactly one character between single quotes."
  | .unterminatedString => "A string opened with `\"` reached the end of input."
  | .failedConversion =>
    "A scanned number literal has no digits or does not fit in a signed 64-bit integer."
  | .sentinelInText =>
    "The sentinel character marks the end of input and cannot appear in the text."

/-- What to do about the error. -/
def resolution : ErrorKind → String
  | .unterminatedComment =>
    "Close the comment with `*/`, or use `//` for a comment that runs to the end of input."
  | .malformedCharacter =>
    "Write one character between the quotes, or use double quotes for text: \"ab\"."
  | .unterminatedString => "Add the closing double quote."
  | .failedConversion =>
    "Keep integers within -9223372036854775808..9223372036854775807 and "
      ++ "put at least one digit after a radix prefix."
  | .sentinelInText => "Remove the character from the input or configure a different sentinel."

/-- Inputs that provoke the error. -/
def examples : ErrorKind → List ErrorExample
  | .unterminatedComment =>
    [⟨"Missing closing delimiter", "/* no close"⟩, ⟨"Opening star reused as closer", "/*/"⟩]
  | .malformedCharacter => [⟨"Empty literal", "''"⟩, ⟨"More than one character", "'ab'"⟩]
  | .unterminatedString => [⟨"Missing closing quote", "\"hello"⟩]
  | .failedConversion =>
    [⟨"Integer overflow", "9223372036854775808"⟩, ⟨"Prefix followed only by separators", "0x__"⟩]
  | .sentinelInText => [⟨"NUL byte inside text", "a\\0b"⟩]

/-- The kind with a code. -/
def ofCode? (code : String) : Option ErrorKind := all.find? (·.code = code)

/-- The kind with a name. -/
def ofName? (name : String) : Option ErrorKind := all.find? (·.name = name)

/-- The lines that explain an example. -/
def ErrorExample.explain (e : ErrorExample) : String :=
  "  " ++ e.description ++ "\n\n"
    ++ String.intercalate "\n" ((e.code.splitOn "\n").map ("    " ++ ·))

/-- The documentation of a kind: what it is, what leads to it, what helps, and examples. -/
def explain (k : ErrorKind) : String :=
  String.intercalate "\n\n"
    [ k.code ++ ": " ++ k.description,
      "Cause:\n  " ++ k.cause,
      "Resolution:\n  " ++ k.resolution,
      "Examples:\n" ++ String.intercalate "\n\n" (k.examples.map ErrorExample.explain) ]

end ErrorKind

end LiteralLexer
