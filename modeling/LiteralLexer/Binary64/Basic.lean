import LiteralLexer.Text.Digits

/-!
# Binary floating-point numbers

A `Binary64` is a number of the 64-bit binary format, held as sign, significand and exponent, so
that every operation is arithmetic on natural numbers.  `ofDecimal` reads a decimal correctly
rounded: to the nearest number of the format, and to the even significand halfway between two.
-/

namespace LiteralLexer

/-- A number of the 64-bit binary format.  `finite s m e` stands for `± m * 2 ^ e`; it is built
with `m < 2 ^ 53`, `-1074 ≤ e ≤ 971`, and `2 ^ 52 ≤ m` unless `e = -1074`. -/
inductive Binary64 where
  | nan
  | infinite (negative : Bool)
  | finite (negative : Bool) (significand : Nat) (exponent : Int)
  deriving DecidableEq, Repr, Inhabited

namespace Binary64

/-- The least exponent of the format. -/
def minExponent : Int := -1074

/-- The greatest exponent of the format. -/
def maxExponent : Int := 971

/-- The zero of the given sign. -/
def zero (negative : Bool) : Binary64 := .finite negative 0 minExponent

/-- The quotient of two natural numbers to the nearest integer, a half to the even one. -/
def roundQuotient (numerator denominator : Nat) : Nat :=
  let quotient := numerator / denominator
  let twice := 2 * (numerator % denominator)
  if twice < denominator then quotient
  else if denominator < twice then quotient + 1
  else quotient + quotient % 2

/-- The fraction `numerator / denominator` divided by a power of two, as a fraction. -/
def scaleDown (numerator denominator : Nat) : Int → Nat × Nat
  | .ofNat k => (numerator, denominator * Nat.pow 2 k)
  | .negSucc k => (numerator * Nat.pow 2 (k + 1), denominator)

/-- The number nearest to `numerator / denominator`, for a positive numerator and denominator.
The logarithms give the exponent that leaves 53 bits up to one, which the comparison settles. -/
def ofFraction (negative : Bool) (numerator denominator : Nat) : Binary64 :=
  let estimate : Int := (numerator.log2 : Int) - denominator.log2
  let (n, d) := scaleDown numerator denominator estimate
  let exponent := max minExponent (if d ≤ n then estimate - 52 else estimate - 53)
  let (n, d) := scaleDown numerator denominator exponent
  let rounded := roundQuotient n d
  let (significand, exponent) :=
    if rounded = Nat.pow 2 53 then (Nat.pow 2 52, exponent + 1) else (rounded, exponent)
  if maxExponent < exponent then .infinite negative else .finite negative significand exponent

/-- The number nearest to `± digits * 10 ^ exponent`.  An exponent so far out that the result can
only be infinite or zero is settled without computing the power. -/
def ofDecimal (negative : Bool) (digits : Nat) (exponent : Int) : Binary64 :=
  if digits = 0 then zero negative
  else if 309 ≤ exponent then .infinite negative
  else if (digits.log2 : Int) + 1 + 3 * exponent < -1080 then zero negative
  else match exponent with
    | .ofNat k => ofFraction negative (digits * Nat.pow 10 k) 1
    | .negSucc k => ofFraction negative digits (Nat.pow 10 (k + 1))

/-- A decimal without a sign, as its digits and the power of ten that they are counted in.  One digit
stands before or behind the point, and an exponent may follow. -/
def decimal? (cs : List Char) : Option (Nat × Int) := do
  let whole := cs.takeWhile Char.isDigit
  let behind := cs.dropWhile Char.isDigit
  let pointed : Bool := behind.head? = some '.'
  let fraction := if pointed then behind.tail.takeWhile Char.isDigit else []
  let rest := if pointed then behind.tail.dropWhile Char.isDigit else behind
  let digits ← Text.digits? 10 (whole ++ fraction)
  let exponent ← if rest = [] then some 0 else Text.exponent? rest
  return (digits, exponent - fraction.length)

/-- The number nearest to an integer. -/
def ofInt (n : Int) : Binary64 := ofDecimal (n < 0) n.natAbs 0

/-- Numeric equality: the two zeros are equal, and a NaN differs from everything. -/
def same : Binary64 → Binary64 → Bool
  | .nan, _ | _, .nan => false
  | .infinite s, .infinite t => s == t
  | .finite s m e, .finite t n f => if m = 0 then n = 0 else s == t && m == n && e == f
  | _, _ => false

/-- Neither NaN nor infinite. -/
def isFinite : Binary64 → Bool
  | .finite .. => true
  | _ => false

/-- The integer that a number is, if it is one. -/
def toInt? : Binary64 → Option Int
  | .finite negative significand exponent =>
    let magnitude? : Option Nat := match exponent with
      | .ofNat k => some (significand * Nat.pow 2 k)
      | .negSucc k =>
        let unit := Nat.pow 2 (k + 1)
        if significand % unit = 0 then some (significand / unit) else none
    magnitude?.map fun n => if negative then -(n : Int) else n
  | _ => none

end Binary64

end LiteralLexer
