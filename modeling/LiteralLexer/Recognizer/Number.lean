import LiteralLexer.Recognizer.Basic

/-!
# Numbers

A number is an optional `-` and a digit, followed by more digits and `_` separators.  `0b`, `0o` and
`0x` select another radix when the cluster behind them continues such a number.  A decimal number
goes on behind a `.` if a digit follows the point and no separator stands before it; it is then a
floating-point number.

Integers must fit in 64 bits, and a radix prefix must be followed by at least one digit.
-/

namespace LiteralLexer

/-- The radices of number literals. -/
inductive Radix where
  | binary
  | octal
  | decimal
  | hexadecimal
  deriving DecidableEq, Repr

namespace Radix

/-- The number of digits of a radix. -/
def base : Radix → Nat
  | .binary => 2
  | .octal => 8
  | .decimal => 10
  | .hexadecimal => 16

/-- The radix that a letter behind a `0` selects. -/
def ofLetter? (c : Cluster) : Option Radix :=
  if c = Cluster.single 'b' then some .binary
  else if c = Cluster.single 'o' then some .octal
  else if c = Cluster.single 'x' then some .hexadecimal
  else none

/-- The value of a digit in the largest radix. -/
def digitValue? (c : Char) : Option Nat :=
  if c.isDigit then some (c.toNat - '0'.toNat)
  else if 'a' ≤ c ∧ c ≤ 'f' then some (c.toNat - 'a'.toNat + 10)
  else if 'A' ≤ c ∧ c ≤ 'F' then some (c.toNat - 'A'.toNat + 10)
  else none

/-- Whether a character is a digit of a radix. -/
def isDigit (radix : Radix) (c : Char) : Bool :=
  (digitValue? c).any (· < radix.base)

/-- Whether a cluster continues a number of a radix: a digit or a separator. -/
def continues (radix : Radix) (c : Cluster) : Bool :=
  c.tail.isEmpty && (c.head = '_' || radix.isDigit c.head)

/-- The number that a sequence of digits stands for. -/
def value (radix : Radix) (digits : List Char) : Nat :=
  digits.foldl (fun n d => n * radix.base + (digitValue? d).getD 0) 0

end Radix

namespace Recognizer

/-- The digits of a run of clusters, without the separators. -/
def withoutSeparators (run : List Cluster) : List Char :=
  (run.map Cluster.head).filter (· ≠ '_')

/-- The least and the greatest integer of 64 bits. -/
def fitsInt64 (n : Int) : Bool := -0x8000000000000000 ≤ n && n ≤ 0x7fffffffffffffff

/-- The integer that digits stand for, if there are any and it fits in 64 bits. -/
def toInteger? (radix : Radix) (negative : Bool) (digits : List Char) : Option Int :=
  if digits.isEmpty then none
  else
    let magnitude : Int := radix.value digits
    let signed := if negative then -magnitude else magnitude
    if fitsInt64 signed then some signed else none

/-- The radix that is selected at a `0`, if the cluster behind the letter continues a number of
that radix. -/
def selectedRadix? (r : Reading) : Option Radix :=
  if r.current = Cluster.single '0' then
    (Radix.ofLetter? (r.ahead 1)).filter fun radix => radix.continues (r.ahead 2)
  else none

/-- A decimal point at the current cluster belongs to the number whose digits were just read. -/
def atFraction (whole : List Cluster) (r : Reading) : Bool :=
  r.current = Cluster.single '.' && whole.getLast? ≠ some (Cluster.single '_')
    && (r.ahead 1).isDigit

/-- The verdict on an integer that was read from `start` up to `rest`. -/
def integerVerdict (start : Reading) (radix : Radix) (negative : Bool) (run : List Cluster)
    (rest : Reading) : Verdict :=
  match toInteger? radix negative (withoutSeparators run) with
  | some n => .accept (.integer n) rest
  | none => .fault start (.failedConversion (start.textUntil rest)) rest

/-- The verdict on a number that begins at `start`, with its sign if it has one, and whose first digit
is the current cluster of `unsigned`. -/
def numberFrom (start : Reading) (negative : Bool) (unsigned : Reading) : Verdict :=
  match selectedRadix? unsigned with
  | some radix =>
    let (run, rest) := (unsigned.advance 2).span radix.continues
    integerVerdict start radix negative run rest
  | none =>
    let (whole, rest) := unsigned.span Radix.decimal.continues
    if atFraction whole rest then
      let (fraction, rest) := rest.next.span Radix.decimal.continues
      let wholeDigits := withoutSeparators whole
      let fractionDigits := withoutSeparators fraction
      let digits := Radix.decimal.value (wholeDigits ++ fractionDigits)
      .accept (.floatingPoint (.ofDecimal negative digits (-fractionDigits.length))) rest
    else integerVerdict start .decimal negative whole rest

/-- Accepts an integer or a floating-point number. -/
def number : Recognizer := fun r =>
  let negative : Bool := r.current = Cluster.single '-'
  let first := if negative then r.ahead 1 else r.current
  if first.isDigit then numberFrom r negative (if negative then r.next else r) else .decline r

end Recognizer

end LiteralLexer
