import LiteralLexer.Diagnostic.Basic
import LiteralLexer.Text.Quoted

/-!
# Faults

A `Fault` is what is wrong with a text; a `LocatedFault` says where.  The wording comes from the
template of the kind of error, filled in with the details of the fault.
-/

namespace LiteralLexer

/-- What can be wrong with a text. -/
inductive Fault where
  /-- A block comment is never closed. -/
  | unterminatedComment
  /-- Nothing stands between two single quotes. -/
  | emptyCharacter
  /-- More than one cluster follows a single quote before the next one. -/
  | crowdedCharacter
  /-- A string is never closed. -/
  | unterminatedString
  /-- A number has no digits, or is no signed 64-bit integer. -/
  | failedConversion (literal : String)
  /-- The text contains the sentinel that is to mark its end. -/
  | sentinelInText (sentinel : String)
  deriving DecidableEq, Repr

namespace Fault

/-- The kind of error that a fault is reported as. -/
def kind : Fault → ErrorKind
  | .unterminatedComment => .unterminatedComment
  | .emptyCharacter | .crowdedCharacter => .malformedCharacter
  | .unterminatedString => .unterminatedString
  | .failedConversion _ => .failedConversion
  | .sentinelInText _ => .sentinelInText

/-- The details of a fault, by name. -/
def context : Fault → Context
  | .unterminatedComment | .unterminatedString => []
  | .emptyCharacter => [("reason", .text "expected a character between the quotes")]
  | .crowdedCharacter => [("reason", .text "expected only one character between the quotes")]
  | .failedConversion literal =>
    [("literal", .text literal), ("target", .text "64-bit integer")]
  | .sentinelInText sentinel => [("sentinel", .text (Text.quote sentinel))]

end Fault

/-- A fault and the place of the construct that is at fault. -/
structure LocatedFault where
  fault : Fault
  location : Location
  deriving DecidableEq, Repr

/-- The diagnostic for a fault. -/
def LocatedFault.toDiagnostic (f : LocatedFault) : Diagnostic :=
  .ofContext f.fault.kind f.fault.context (some f.location)

/-- Everything that can keep a lexer from delivering a token. -/
inductive LexFailure where
  /-- The text is at fault. -/
  | malformed (fault : LocatedFault)
  /-- No transform would notice that the text is exhausted. -/
  | missingEndOfInput
  /-- The sentinel is not exactly one cluster. -/
  | sentinelNotSingle (sentinel : String)
  /-- A transform supplied by the host failed with a message of its own. -/
  | host (message : String)
  /-- The transforms go round in circles and never reach the end of the text. -/
  | endless
  deriving DecidableEq, Repr

/-- The message of a failure. -/
def LexFailure.message : LexFailure → String
  | .malformed fault => fault.toDiagnostic.message
  | .missingEndOfInput => "Transforms must include readEndOfInput"
  | .sentinelNotSingle sentinel =>
    "End-of-input sentinel must be a single character, got " ++ Text.quote sentinel
  | .host message => message
  | .endless => "Transforms never reach the end of input"

end LiteralLexer
