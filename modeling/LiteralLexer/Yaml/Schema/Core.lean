import LiteralLexer.Yaml.Schema.Atom

/-!
# The core schema

What a plain scalar means by default: null, a boolean, a number, or else text.
-/

namespace LiteralLexer.Yaml.Core

/-- A boolean. -/
def boolean? (text : String) : Option Atom :=
  if text ∈ ["true", "True", "TRUE"] then some (.bool true)
  else if text ∈ ["false", "False", "FALSE"] then some (.bool false)
  else none

/-- An integer: octal after `0o`, hexadecimal after `0x`, else decimal with an optional sign. -/
def integer? (text : String) : Option Atom :=
  let number (negative : Bool) (format : NumberFormat) (n : Nat) : Atom :=
    .number (Binary64.ofDecimal negative n 0) format
  match text.toList with
  | '0' :: 'o' :: cs => (Text.digits? 8 cs).map (number false .octal)
  | '0' :: 'x' :: cs => (Text.digits? 16 cs).map (number false .hexadecimal)
  | cs =>
    let (negative, cs) := Text.splitSign cs
    (Text.digits? 10 cs).map (number negative (.decimal 0))

/-- A number with a decimal point or an exponent. -/
def decimal? (text : String) : Option Atom :=
  let (negative, cs) := Text.splitSign text.toList
  let whole := cs.takeWhile Char.isDigit
  let (fraction, rest, pointed) := match cs.dropWhile Char.isDigit with
    | '.' :: cs => (cs.takeWhile Char.isDigit, cs.dropWhile Char.isDigit, true)
    | cs => ([], cs, false)
  match Text.digits? 10 (whole ++ fraction) with
  | none => none
  | some digits =>
    if rest.isEmpty then
      let places := if fraction.getLast? = some '0' then fraction.length else 0
      if pointed then
        some (.number (Binary64.ofDecimal negative digits (-(fraction.length : Int)))
          (.decimal places))
      else none
    else
      (Text.exponent? rest).map fun exponent =>
        .number (Binary64.ofDecimal negative digits (exponent - fraction.length)) .exponent

/-- A number with a fraction, an exponent or no finite value. -/
def float? (text : String) : Option Atom := (special? text).or (decimal? text)

/-- The meaning of a plain scalar other than text. -/
def plain? (text : String) : Option Atom :=
  (null? text).or ((boolean? text).or ((integer? text).or (float? text)))

end LiteralLexer.Yaml.Core
