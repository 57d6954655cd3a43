import LiteralLexer.Yaml.Schema.Basic

/-!
# Numbers as they are written

A number is written again in the format in which it was read.
-/

namespace LiteralLexer.Yaml

/-- Digits with an exponent, whatever the size of the number. -/
def scientific : Binary64.NumberStyle :=
  { Binary64.plain with
    leastPoint := 0, greatestPoint := -400, zero := "0e+0", negativeZero := "0e+0" }

/-- Shortest digits, where a negative zero keeps its sign. -/
def signedPlain : Binary64.NumberStyle := { Binary64.plain with negativeZero := "-0" }

/-- Fills up the places behind the decimal point of a number that is not negative. -/
def fillPlaces (places : Nat) (digits : List Char) : List Char :=
  if places = 0 || !digits.head?.any Char.isDigit then digits
  else
    let pointed := if digits.contains '.' then digits else digits ++ ['.']
    let count := ((pointed.dropWhile (· ≠ '.')).drop 1).length
    pointed ++ List.replicate (places - count) '0'

/-- An integer in a base, behind the mark of the base. -/
def basedText (base : Nat) (mark : String) (n : Int) : List Char :=
  (if n < 0 then ['-'] else []) ++ mark.toList ++ Nat.toDigits base n.natAbs

/-- The digits of a group to the base of sixty, at least two of them. -/
def groupText (digits : String) : List Char :=
  List.replicate (2 - digits.length) '0' ++ digits.toList

/-- Cuts off a fraction where six zeros follow each other, which are an effect of rounding. -/
def cutZeros : List Char → List Char
  | [] => []
  | c :: cs =>
    if (c :: cs).take 6 = List.replicate 6 '0' && ((c :: cs).drop 6).all Char.isDigit then []
    else c :: cutZeros cs

/-- Groups to the base of sixty: seconds with their fraction, minutes, and hours if there are any. -/
def sexagesimalText (negative : Bool) (significand : Nat) (exponent : Int) : List Char :=
  let (numerator, denominator) : Nat × Nat := match exponent with
    | .ofNat k => (significand * Nat.pow 2 k, 1)
    | .negSucc k => (significand, Nat.pow 2 (k + 1))
  let minutes := numerator / denominator / 60
  let rest := numerator - minutes * 60 * denominator
  let seconds := if rest = 0 then "0" else (Binary64.ofFraction false rest denominator).text
  let groups :=
    if minutes < 60 then [toString minutes, seconds]
    else [toString (minutes / 60), toString (minutes % 60), seconds]
  (if negative && 0 < significand then ['-'] else [])
    ++ cutZeros (List.intercalate [':'] (groups.map groupText))

/-- A number in decimal. -/
def decimalText (places : Nat) (x : Binary64) : List Char :=
  match x with
  | .nan => ".nan".toList
  | .infinite negative => (if negative then "-.inf" else ".inf").toList
  | x => fillPlaces places (signedPlain.text x).toList

/-- A number in its format. -/
def Schema.numberText (schema : Schema) (x : Binary64) (format : NumberFormat) : List Char :=
  match x, format with
  | .finite .., .decimal places => decimalText places x
  | .finite .., .exponent => (scientific.text x).toList
  | .finite negative significand exponent, .sexagesimal =>
    sexagesimalText negative significand exponent
  | x, format =>
    match x.toInt?, format with
    | some n, .binary => basedText 2 "0b" n
    | some n, .octal => basedText 8 (if schema = .core then "0o" else "0") n
    | some n, .hexadecimal => basedText 16 "0x" n
    | _, _ => decimalText 0 x

end LiteralLexer.Yaml
