/-!
# Units of UTF-16

A character outside the first plane counts as two units.  Where a length or a column is measured in
units, a text is spread out so that every unit has a place: the second unit of a pair is empty.
-/

namespace LiteralLexer.Text

/-- How many units a character takes. -/
def unitWidth (c : Char) : Nat := if c.toNat < 0x10000 then 1 else 2

/-- How many units a text takes. -/
def unitCount : List Char → Nat
  | [] => 0
  | c :: cs => unitWidth c + unitCount cs

/-- A text with one place for every unit. -/
def spread (cs : List Char) : List (Option Char) :=
  cs.flatMap fun c => if unitWidth c = 1 then [some c] else [some c, none]

/-- The text that was spread out. -/
def gather (units : List (Option Char)) : List Char := units.filterMap id

theorem gather_spread (cs : List Char) : gather (spread cs) = cs := by
  induction cs with
  | nil => rfl
  | cons c cs ih =>
    have h : gather (spread (c :: cs)) = c :: gather (spread cs) := by
      simp only [gather, spread, List.flatMap_cons, List.filterMap_append]
      split <;> simp
    rw [h, ih]

theorem length_spread (cs : List Char) : (spread cs).length = unitCount cs := by
  induction cs with
  | nil => rfl
  | cons c cs ih =>
    have h : (spread (c :: cs)).length = unitWidth c + (spread cs).length := by
      simp only [spread, List.flatMap_cons, List.length_append, unitWidth]
      split <;> simp_all
    rw [h, ih, unitCount]

end LiteralLexer.Text
