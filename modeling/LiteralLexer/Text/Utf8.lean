/-!
# Reading UTF-8

`decodeUtf8` reads any sequence of octets.  One that is not well formed is read all the same: every
longest piece that could have started a character, but did not become one, is replaced by U+FFFD.

The reader goes octet by octet.  Between two octets it either stands between characters, or it has
read the first octets of a character and knows what the next octet may be.
-/

namespace LiteralLexer.Text

/-- The character that stands for what cannot be read. -/
def replacement : Char := '\ufffd'

/-- The first octets of a character. -/
structure PartialChar where
  /-- How many octets are still to come. -/
  missing : Nat
  /-- The bits read so far. -/
  bits : Nat
  /-- The least octet that may come next. -/
  lower : Nat
  /-- The greatest octet that may come next. -/
  upper : Nat
  deriving DecidableEq, Repr

/-- What one octet yields: characters, and perhaps the beginning of another one. -/
abbrev Decoded := List Char × Option PartialChar

/-- Reads the first octet of a character.  The second one is restricted where the character would
be too long for its code point, a surrogate, or beyond the last code point. -/
def decodeLead (octet : Nat) : Decoded :=
  if octet < 0x80 then ([Char.ofNat octet], none)
  else if 0xC2 ≤ octet ∧ octet ≤ 0xDF then ([], some ⟨1, octet - 0xC0, 0x80, 0xBF⟩)
  else if 0xE0 ≤ octet ∧ octet ≤ 0xEF then
    let lower := if octet = 0xE0 then 0xA0 else 0x80
    let upper := if octet = 0xED then 0x9F else 0xBF
    ([], some ⟨2, octet - 0xE0, lower, upper⟩)
  else if 0xF0 ≤ octet ∧ octet ≤ 0xF4 then
    let lower := if octet = 0xF0 then 0x90 else 0x80
    let upper := if octet = 0xF4 then 0x8F else 0xBF
    ([], some ⟨3, octet - 0xF0, lower, upper⟩)
  else ([replacement], none)

/-- Reads one octet.  An octet that does not continue the character begins a new one. -/
def decodeOctet (pending : Option PartialChar) (octet : Nat) : Decoded :=
  match pending with
  | none => decodeLead octet
  | some p =>
    if p.lower ≤ octet ∧ octet ≤ p.upper then
      let bits := p.bits * 0x40 + (octet - 0x80)
      if p.missing = 1 then ([Char.ofNat bits], none)
      else ([], some ⟨p.missing - 1, bits, 0x80, 0xBF⟩)
    else
      let (chars, pending) := decodeLead octet
      (replacement :: chars, pending)

/-- Reads the octets behind the beginning of a character. -/
def decodeFrom (pending : Option PartialChar) : List UInt8 → List Char
  | [] => if pending.isSome then [replacement] else []
  | octet :: octets =>
    let (chars, pending) := decodeOctet pending octet.toNat
    chars ++ decodeFrom pending octets

/-- The text that octets spell in UTF-8. -/
def decodeUtf8 (octets : List UInt8) : String := String.ofList (decodeFrom none octets)

end LiteralLexer.Text
