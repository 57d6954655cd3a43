/-!
# Octets as text

Six bits make one character.  Reading passes over everything that is not one of these characters,
and over bits at the end that do not fill an octet; writing pads the last group.
-/

namespace LiteralLexer.Text

/-- The characters of the 64 values. -/
def base64Digits : List Char :=
  "ABCDEFGHIJKLMNOPQRSTUVWXYZabcdefghijklmnopqrstuvwxyz0123456789+/".toList

/-- The value of a character.  Two characters may stand for those that have a meaning in addresses. -/
def base64Value? (c : Char) : Option Nat :=
  if c = '-' then some 62 else if c = '_' then some 63 else base64Digits.idxOf? c

/-- The octets of groups of four values. -/
def octetsOfValues : List Nat → List UInt8
  | a :: b :: c :: d :: values =>
    .ofNat (a * 4 + b / 16) :: .ofNat (b * 16 + c / 4) :: .ofNat (c * 64 + d)
      :: octetsOfValues values
  | [a, b, c] => [.ofNat (a * 4 + b / 16), .ofNat (b * 16 + c / 4)]
  | [a, b] => [.ofNat (a * 4 + b / 16)]
  | [_] | [] => []

/-- The octets that a text stands for. -/
def decodeBase64 (cs : List Char) : List UInt8 := octetsOfValues (cs.filterMap base64Value?)

/-- The character of a value. -/
def base64Digit (n : Nat) : Char := base64Digits.getD (n % 64) 'A'

/-- The text of octets. -/
def encodeBase64 : List UInt8 → List Char
  | a :: b :: c :: octets =>
    base64Digit (a.toNat / 4) :: base64Digit (a.toNat * 16 + b.toNat / 16)
      :: base64Digit (b.toNat * 4 + c.toNat / 64) :: base64Digit c.toNat :: encodeBase64 octets
  | [a, b] =>
    [base64Digit (a.toNat / 4), base64Digit (a.toNat * 16 + b.toNat / 16),
      base64Digit (b.toNat * 4), '=']
  | [a] => [base64Digit (a.toNat / 4), base64Digit (a.toNat * 16), '=', '=']
  | [] => []

end LiteralLexer.Text
