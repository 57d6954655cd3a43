import LiteralLexer.Binary64.Shortest
import LiteralLexer.Value.Instant

/-!
# Atoms

What a scalar stands for.  A number keeps how it was written, as far as that shows when it is
written again.
-/

namespace LiteralLexer.Yaml

/-- How a number is written. -/
inductive NumberFormat where
  /-- In decimal, with at least the given number of places. -/
  | decimal (places : Nat)
  | binary
  | octal
  | hexadecimal
  | exponent
  /-- In groups to the base of sixty. -/
  | sexagesimal
  deriving DecidableEq, Repr

/-- What a scalar stands for. -/
inductive Atom where
  | null
  | bool (b : Bool)
  | number (x : Binary64) (format : NumberFormat)
  | text (s : String)
  | instant (t : Instant)
  | bytes (octets : List UInt8)
  /-- The key under which the entries of other mappings are taken over. -/
  | mergeKey
  deriving Repr

namespace Atom

/-- Two atoms that cannot both be keys of one mapping. -/
def same : Atom → Atom → Bool
  | .null, .null => true
  | .bool a, .bool b => a == b
  | .number x _, .number y _ => x.same y
  | .text s, .text t => s = t
  | _, _ => false

/-- Two atoms that are the same, where the number that is none is the same as itself. -/
def identical : Atom → Atom → Bool
  | .number .nan _, .number .nan _ => true
  | a, b => a.same b

end Atom

/-- An infinity or the number that is none. -/
def special? (text : String) : Option Atom :=
  if text ∈ [".nan", ".NaN", ".NAN"] then some (.number .nan (.decimal 0))
  else
    let (negative, cs) := Text.splitSign text.toList
    if String.ofList cs ∈ [".inf", ".Inf", ".INF"] then
      some (.number (.infinite negative) (.decimal 0))
    else none

/-- The null atom, which may be written in several ways. -/
def null? (text : String) : Option Atom :=
  if text ∈ ["", "~", "null", "Null", "NULL"] then some .null else none

end LiteralLexer.Yaml
