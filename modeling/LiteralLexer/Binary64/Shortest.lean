import LiteralLexer.Binary64.Basic

/-!
# Shortest decimals

The text of a floating-point number is the shortest decimal that reads back as that number, and of
several as short the nearest to it.  All reals strictly between the midpoints to the two
neighbours read back, and the midpoints themselves do when the significand is even.  For each
number of digits it is enough to test the two decimals around the number; 17 digits always do.

How the digits are laid out is a choice of its own, kept in a `NumberStyle`.
-/

namespace LiteralLexer

namespace Binary64

/-- A positive number and the interval that reads back as it, over the common divisor
`denominator`. -/
structure ReadInterval where
  low : Nat
  value : Nat
  high : Nat
  denominator : Nat
  /-- The ends belong to the interval. -/
  closed : Bool

/-- The interval around `significand * 2 ^ exponent`.  Below a power of two the numbers lie twice
as dense, so there the lower midpoint is half as far away. -/
def readInterval (significand : Nat) (exponent : Int) : ReadInterval :=
  let down := if significand = Nat.pow 2 52 && minExponent < exponent then 1 else 2
  let (scale, denominator) : Nat × Nat := match exponent - 2 with
    | .ofNat k => (Nat.pow 2 k, 1)
    | .negSucc k => (1, Nat.pow 2 (k + 1))
  { low := (4 * significand - down) * scale
    value := 4 * significand * scale
    high := (4 * significand + 2) * scale
    denominator
    closed := significand % 2 = 0 }

/-- The exponent `e` with `10 ^ e ≤ numerator / denominator < 10 ^ (e + 1)`, for positive
arguments. -/
def decimalExponent (numerator denominator : Nat) : Int :=
  if denominator ≤ numerator then
    ((Nat.toDigits 10 (numerator / denominator)).length : Int) - 1
  else
    let places := (Nat.toDigits 10 (denominator / numerator)).length
    if numerator * Nat.pow 10 (places - 1) = denominator then 1 - (places : Int)
    else -(places : Int)

/-- Of the two multiples of `10 ^ unit` around the number, the one that reads back, the nearer one
if both do, and the even one if they are as near. -/
def nearestMultiple? (i : ReadInterval) (unit : Int) : Option Nat :=
  let (grow, divisor) : Nat × Nat := match unit with
    | .ofNat k => (1, i.denominator * Nat.pow 10 k)
    | .negSucc k => (Nat.pow 10 (k + 1), i.denominator)
  let below := i.value * grow / divisor
  let inside (n : Nat) : Bool :=
    let scaled := n * divisor
    if i.closed then i.low * grow ≤ scaled && scaled ≤ i.high * grow
    else i.low * grow < scaled && scaled < i.high * grow
  let rounded := roundQuotient (i.value * grow) divisor
  if inside rounded then some rounded
  else if inside below then some below
  else if inside (below + 1) then some (below + 1)
  else none

/-- The shortest decimal `digits * 10 ^ exponent` that reads back as a positive number. -/
def shortest (significand : Nat) (exponent : Int) : Nat × Int :=
  let i := readInterval significand exponent
  let top := decimalExponent i.value i.denominator
  let found := (List.range 17).findSome? fun (places : Nat) =>
    let unit := top - places
    (nearestMultiple? i unit).map fun n => (n, unit)
  found.getD (significand, 0)

/-! ## Layout -/

/-- How the digits of a number are laid out.  A number whose decimal point stands after
`leastPoint < point ≤ greatestPoint` digits is written without an exponent. -/
structure NumberStyle where
  leastPoint : Int
  greatestPoint : Int
  exponentMark : String
  positiveExponentSign : String
  nan : String
  infinity : String
  zero : String
  negativeZero : String

/-- Zeros, `n` of them. -/
def zeros (n : Nat) : String := String.ofList (List.replicate n '0')

/-- Digits without the zeros at their end, and the number of zeros that fell away. -/
def trimZeros (digits : List Char) : List Char × Nat :=
  let kept := (digits.reverse.dropWhile (· = '0')).reverse
  (kept, digits.length - kept.length)

/-- The text of the positive number `digits * 10 ^ exponent`. -/
def NumberStyle.layout (style : NumberStyle) (digits : Nat) (exponent : Int) : String :=
  let (kept, dropped) := trimZeros (Nat.toDigits 10 digits)
  let count := kept.length
  let point : Int := count + (exponent + dropped)
  if count ≤ point && point ≤ style.greatestPoint then
    String.ofList kept ++ zeros (point - count).toNat
  else if 0 < point && point ≤ style.greatestPoint then
    String.ofList (kept.take point.toNat) ++ "." ++ String.ofList (kept.drop point.toNat)
  else if style.leastPoint < point && point ≤ 0 then
    "0." ++ zeros (-point).toNat ++ String.ofList kept
  else
    let e := point - 1
    let sign := if 0 ≤ e then style.positiveExponentSign else "-"
    let mantissa := match kept with
      | [] => ""
      | [d] => String.ofList [d]
      | d :: ds => String.ofList (d :: '.' :: ds)
    mantissa ++ style.exponentMark ++ sign ++ toString e.natAbs

/-- The text of a number. -/
def NumberStyle.text (style : NumberStyle) : Binary64 → String
  | .nan => style.nan
  | .infinite negative => (if negative then "-" else "") ++ style.infinity
  | .finite negative significand exponent =>
    if significand = 0 then
      if negative then style.negativeZero else style.zero
    else
      let (digits, unit) := shortest significand exponent
      (if negative then "-" else "") ++ style.layout digits unit

/-- Plain decimals from 1e-6 up to 1e21, no decimal point in a whole number, a signed exponent
elsewhere, and no sign on a zero. -/
def plain : NumberStyle where
  leastPoint := -6
  greatestPoint := 21
  exponentMark := "e"
  positiveExponentSign := "+"
  nan := "NaN"
  infinity := "Infinity"
  zero := "0"
  negativeZero := "0"

/-- The text of a number in plain style. -/
def text (x : Binary64) : String := plain.text x

end Binary64

end LiteralLexer
