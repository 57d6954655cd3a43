import LiteralLexer.Recognizer.Layout
import LiteralLexer.Recognizer.Number
import LiteralLexer.Recognizer.Word

/-!
# Transforms

The nine transforms, each with its name in a configuration and its recognizer.  A lexer runs a list
of *stages*: transforms, and recognizers of the host's own.
-/

namespace LiteralLexer

/-- The transforms that come with the lexer. -/
inductive Transform where
  | whitespace
  | endOfInput
  | newLine
  | comment
  | boolean
  | number
  | character
  | string
  | flag
  deriving DecidableEq, Repr, Inhabited

namespace Transform

/-- All transforms, in the order in which they run unless asked otherwise. -/
def defaultOrder : List Transform :=
  [.whitespace, .endOfInput, .newLine, .comment, .boolean, .number, .character, .string, .flag]

/-- The name of a transform in a configuration. -/
def name : Transform → String
  | .whitespace => "whitespace"
  | .endOfInput => "endOfInput"
  | .newLine => "newLine"
  | .comment => "comment"
  | .boolean => "boolean"
  | .number => "number"
  | .character => "character"
  | .string => "string"
  | .flag => "flag"

/-- The names of all transforms. -/
def names : List String := defaultOrder.map name

/-- The transform with a name. -/
def ofName? (name : String) : Option Transform := defaultOrder.find? (·.name = name)

/-- The recognizer of a transform. -/
def recognizer : Transform → Recognizer
  | .whitespace => Recognizer.whitespace
  | .endOfInput => Recognizer.endOfInput
  | .newLine => Recognizer.newLine
  | .comment => Recognizer.comment
  | .boolean => Recognizer.boolean
  | .number => Recognizer.number
  | .character => Recognizer.character
  | .string => Recognizer.string
  | .flag => Recognizer.flag

end Transform

/-- One stage of a lexer. -/
inductive Stage where
  | builtin (transform : Transform)
  /-- A recognizer of the host's own. -/
  | host (recognizer : Recognizer)

namespace Stage

/-- The stages that run unless asked otherwise. -/
def defaults : List Stage := Transform.defaultOrder.map .builtin

/-- The recognizer of a stage. -/
def recognizer : Stage → Recognizer
  | .builtin transform => transform.recognizer
  | .host recognizer => recognizer

/-- Whether a stage notices that the text is exhausted. -/
def isEndOfInput : Stage → Bool
  | .builtin transform => transform = .endOfInput
  | .host _ => false

/-- Offers a reading to the stages in order.  The first that does not decline decides; what a
declining stage has read over stays read. -/
def offer : List Stage → Reading → Verdict
  | [], r => .decline r
  | stage :: stages, r =>
    match stage.recognizer r with
    | .decline r => offer stages r
    | verdict => verdict

end Stage

end LiteralLexer
