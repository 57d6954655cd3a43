import LiteralLexer.Token.Basic
import LiteralLexer.Value.Json

/-!
# Printing tokens

A list of tokens is printed as text, one token a line in the form `label(payload)`, or as a JSON
array of records.
-/

namespace LiteralLexer

namespace Token

/-- A token in running text; text payloads are quoted. -/
def display (t : Token) : String :=
  let wrap (payload : String) : String := t.kind.label ++ "(" ++ payload ++ ")"
  match t with
  | .endOfInput | .newLine => t.kind.label
  | .boolean b => wrap (if b then "true" else "false")
  | .integer n => wrap (toString n)
  | .floatingPoint x => wrap x.text
  | .comment s | .character s | .uninterpolatedString s | .flag s | .undefined s =>
    wrap (Text.quote s)

/-- The payload of a token as plain data.  An integer is written as a decimal text, since a number
of JSON need not hold 64 bits. -/
def payload? : Token → Option Value
  | .endOfInput | .newLine => none
  | .boolean b => some (.bool b)
  | .integer n => some (.text (toString n))
  | .floatingPoint x => some (.number x)
  | .comment s | .character s | .uninterpolatedString s | .flag s | .undefined s =>
    some (.text s)

/-- A token as a record of its kind and, if it has one, its payload. -/
def toValue (t : Token) : Value :=
  let kind := ("type", Value.text t.kind.tag)
  match t.payload? with
  | none => .mapping [kind]
  | some payload => .mapping [kind, ("value", payload)]

end Token

/-- The layouts in which tokens are printed. -/
inductive OutputFormat where
  | text
  | json
  deriving DecidableEq, Repr, Inhabited

/-- Tokens in a layout. -/
def OutputFormat.print (format : OutputFormat) (tokens : List Token) : String :=
  match format with
  | .text => String.intercalate "\n" (tokens.map Token.display)
  | .json => (Value.list (tokens.map Token.toValue)).prettyJson

end LiteralLexer
