import LiteralLexer.Binary64.Shortest
import Mathlib.Algebra.Order.Field.Power
import Mathlib.Data.Rat.Cast.Order
import Mathlib.Tactic.Linarith
import Mathlib.Tactic.NormNum
import Mathlib.Tactic.Ring

/-!
# Intervals of numbers

Every number of the format has an interval of rationals that read back as it.  The intervals of two numbers
have no rational in common (`Normalized.unique`): between neighbours they meet in the midpoint, which belongs
to the number with the even significand only.
-/

namespace LiteralLexer.Binary64

/-- The significand and the exponent of a finite number of the format. -/
structure Normalized (significand : Nat) (exponent : Int) : Prop where
  significand_lt : significand < 2 ^ 53
  le_exponent : minExponent ≤ exponent
  exponent_le : exponent ≤ maxExponent
  normal : 2 ^ 52 ≤ significand ∨ exponent = minExponent

/-- The numbers of the format. -/
def Representable : Binary64 → Prop
  | .finite _ significand exponent => Normalized significand exponent
  | _ => True

/-- A rational belongs to an interval. -/
def ReadInterval.Holds (i : ReadInterval) (q : ℚ) : Prop :=
  if i.closed then (i.low : ℚ) ≤ q * i.denominator ∧ q * i.denominator ≤ i.high
  else (i.low : ℚ) < q * i.denominator ∧ q * i.denominator < i.high

/-- A quarter of the distance between numbers with the same exponent. -/
def quarter (exponent : Int) : ℚ := 2 ^ (exponent - 2)

theorem quarter_pos (exponent : Int) : 0 < quarter exponent := zpow_pos (by norm_num) _

/-- How many quarters the interval of a number reaches down. -/
def reach (significand : Nat) (exponent : Int) : Nat :=
  if significand = 2 ^ 52 ∧ minExponent < exponent then 1 else 2

theorem reach_le (significand : Nat) (exponent : Int) : reach significand exponent ≤ 2 := by
  unfold reach
  split <;> omega

variable {m m' : Nat} {e e' : Int} {q : ℚ}

/-- The interval of a number in quarters, over its denominator. -/
theorem exists_readInterval (m : Nat) (e : Int) : ∃ scale denominator : Nat, 0 < denominator ∧
    (scale : ℚ) = quarter e * denominator ∧
    readInterval m e = ⟨(4 * m - reach m e) * scale, 4 * m * scale, (4 * m + 2) * scale, denominator,
      decide (m % 2 = 0)⟩ := by
  have down : (if (decide (m = Nat.pow 2 52) && decide (minExponent < e)) = true then 1 else 2) =
      reach m e := by
    simp [reach]
  cases unit : e - 2 with
  | ofNat k =>
    refine ⟨2 ^ k, 1, Nat.one_pos, ?_, ?_⟩
    · simp [quarter, unit]
    · simp only [readInterval, down, unit]
      rfl
  | negSucc k =>
    refine ⟨1, 2 ^ (k + 1), Nat.two_pow_pos _, ?_, ?_⟩
    · simp [quarter, unit, zpow_negSucc]
    · simp only [readInterval, down, unit]
      rfl

theorem readInterval_denominator_pos (m : Nat) (e : Int) : 0 < (readInterval m e).denominator := by
  obtain ⟨_, _, nonzero, _, interval⟩ := exists_readInterval m e
  rwa [interval]

theorem readInterval_value (m : Nat) (e : Int) :
    ((readInterval m e).value : ℚ) = 4 * m * quarter e * (readInterval m e).denominator := by
  obtain ⟨scale, denominator, _, scaled, interval⟩ := exists_readInterval m e
  rw [interval]
  push_cast
  rw [scaled]
  ring

/-- Membership in the interval of a number, in quarters. -/
theorem holds_readInterval_iff (positive : 0 < m) : (readInterval m e).Holds q ↔
    if m % 2 = 0 then (4 * m - reach m e) * quarter e ≤ q ∧ q ≤ (4 * m + 2) * quarter e
    else (4 * m - reach m e) * quarter e < q ∧ q < (4 * m + 2) * quarter e := by
  obtain ⟨scale, denominator, nonzero, scaled, interval⟩ := exists_readInterval m e
  have small := reach_le m e
  have nonzero' : (0 : ℚ) < denominator := Nat.cast_pos.mpr nonzero
  have low : (((4 * m - reach m e) * scale : Nat) : ℚ) =
      (4 * m - reach m e) * quarter e * denominator := by
    rw [Nat.cast_mul, Nat.cast_sub (by omega), scaled]
    push_cast
    ring
  have high : (((4 * m + 2) * scale : Nat) : ℚ) = (4 * m + 2) * quarter e * denominator := by
    rw [Nat.cast_mul, scaled]
    push_cast
    ring
  rw [interval, ReadInterval.Holds, low, high]
  simp only [decide_eq_true_eq, mul_le_mul_iff_left₀ nonzero', mul_lt_mul_iff_left₀ nonzero']

/-- The bounds of an interval, whether they belong to it or not. -/
theorem bounds_of_holds (positive : 0 < m) (holds : (readInterval m e).Holds q) :
    (4 * m - reach m e) * quarter e ≤ q ∧ q ≤ (4 * m + 2) * quarter e := by
  have inside := (holds_readInterval_iff positive).mp holds
  split at inside
  · exact inside
  · exact ⟨inside.1.le, inside.2.le⟩

theorem not_holds_zero (positive : 0 < m) : ¬ (readInterval m e).Holds 0 := by
  intro holds
  have low := (bounds_of_holds positive holds).1
  have small : (reach m e : ℚ) ≤ 2 := by exact_mod_cast reach_le m e
  have one : (1 : ℚ) ≤ m := by exact_mod_cast positive
  have above : 0 < (4 * m - reach m e) * quarter e := mul_pos (by linarith) (quarter_pos e)
  exact absurd low (not_le.mpr above)

/-- The bounds belong to the interval of an even significand only. -/
theorem even_of_holds_high (positive : 0 < m) (holds : (readInterval m e).Holds q)
    (high : (4 * m + 2) * quarter e ≤ q) : m % 2 = 0 := by
  have inside := (holds_readInterval_iff positive).mp holds
  split at inside
  · assumption
  · exact absurd inside.2 (not_lt.mpr high)

theorem even_of_holds_low (positive : 0 < m) (holds : (readInterval m e).Holds q)
    (low : q ≤ (4 * m - reach m e) * quarter e) : m % 2 = 0 := by
  have inside := (holds_readInterval_iff positive).mp holds
  split at inside
  · assumption
  · exact absurd inside.1 (not_lt.mpr low)

/-! ## Neighbours -/

/-- No rational belongs to a number and to a greater one with the same exponent. -/
theorem not_holds_of_significand_lt (positive : 0 < m) (less : m < m')
    (holds : (readInterval m e).Holds q) : ¬ (readInterval m' e).Holds q := by
  intro holds'
  have unit := quarter_pos e
  have below := (bounds_of_holds positive holds).2
  have above := (bounds_of_holds (by omega) holds').1
  have small : (reach m' e : ℚ) ≤ 2 := by exact_mod_cast reach_le m' e
  have next : (m : ℚ) + 1 ≤ m' := by exact_mod_cast less
  -- between the two there is room for the midpoint at most
  have middle : (4 * (m : ℚ) + 2) * quarter e ≤ (4 * m' - reach m' e) * quarter e :=
    mul_le_mul_of_nonneg_right (by linarith) unit.le
  have even := even_of_holds_high positive holds (middle.trans above)
  have even' := even_of_holds_low (by omega) holds' (below.trans middle)
  have meets : (4 * (m' : ℚ) - reach m' e) * quarter e ≤ (4 * m + 2) * quarter e := above.trans below
  have near : 4 * (m' : ℚ) - reach m' e ≤ 4 * m + 2 := le_of_mul_le_mul_right meets unit
  have adjacent : m' ≤ m + 1 := by
    have : (m' : ℚ) ≤ m + 1 := by linarith
    exact_mod_cast this
  omega

/-- No rational belongs to a number and to one with a greater exponent. -/
theorem not_holds_of_exponent_lt (positive : 0 < m) (bound : m < 2 ^ 53) (normal : 2 ^ 52 ≤ m')
    (least : minExponent ≤ e) (less : e < e') (holds : (readInterval m e).Holds q) :
    ¬ (readInterval m' e').Holds q := by
  intro holds'
  have unit := quarter_pos e
  have below := (bounds_of_holds positive holds).2
  have above := (bounds_of_holds (by omega) holds').1
  have bound' : (m : ℚ) + 1 ≤ 2 ^ 53 := by exact_mod_cast bound
  have doubled : 2 * quarter e ≤ quarter e' := by
    have step : (2 : ℚ) ^ (e - 2 + 1) = 2 ^ (e - 2) * 2 := zpow_add_one₀ (by norm_num) _
    rw [quarter, quarter, mul_comm, ← step]
    exact zpow_le_zpow_right₀ (by norm_num) (by omega)
  -- the lower bound of the greater number, at least a quarter of its unit above `2 ^ 54 - 2`
  have low : (2 : ℚ) ^ 54 - 1 ≤ 4 * m' - reach m' e' := by
    rcases Nat.lt_or_eq_of_le normal with more | only
    · have small : (reach m' e' : ℚ) ≤ 2 := by exact_mod_cast reach_le m' e'
      have more' : (2 : ℚ) ^ 52 + 1 ≤ m' := by exact_mod_cast more
      linarith
    · have one : reach m' e' = 1 := if_pos ⟨only.symm, by omega⟩
      rw [one, ← only]
      norm_num
  have far : ((2 : ℚ) ^ 54 - 1) * (2 * quarter e) ≤ (4 * m' - reach m' e') * quarter e' := by
    apply mul_le_mul low doubled (by linarith)
    linarith
  have high : (4 * (m : ℚ) + 2) * quarter e ≤ ((2 : ℚ) ^ 54 - 1) * (2 * quarter e) := by
    have : 4 * (m : ℚ) + 2 ≤ (2 ^ 54 - 1) * 2 := by linarith
    calc (4 * (m : ℚ) + 2) * quarter e ≤ ((2 ^ 54 - 1) * 2) * quarter e :=
          mul_le_mul_of_nonneg_right this unit.le
      _ = (2 ^ 54 - 1) * (2 * quarter e) := by ring
  have even := even_of_holds_high positive holds (high.trans (far.trans above))
  -- so the lesser number is the greatest with its exponent, which is odd
  have last : (2 : ℚ) ^ 53 - 1 ≤ m := by
    have meets : ((2 : ℚ) ^ 54 - 1) * 2 * quarter e ≤ (4 * m + 2) * quarter e := by
      calc ((2 : ℚ) ^ 54 - 1) * 2 * quarter e = (2 ^ 54 - 1) * (2 * quarter e) := by ring
        _ ≤ (4 * m + 2) * quarter e := far.trans (above.trans below)
    have near := le_of_mul_le_mul_right meets unit
    linarith
  have last' : 2 ^ 53 ≤ m + 1 := by
    have : (2 : ℚ) ^ 53 ≤ m + 1 := by linarith
    exact_mod_cast this
  omega

/-- A rational reads back as one number of the format. -/
theorem Normalized.unique (here : Normalized m e) (there : Normalized m' e') (positive : 0 < m)
    (positive' : 0 < m') (holds : (readInterval m e).Holds q) (holds' : (readInterval m' e').Holds q) :
    m = m' ∧ e = e' := by
  rcases Int.lt_trichotomy e e' with less | rfl | greater
  · have normal : 2 ^ 52 ≤ m' := there.normal.resolve_right (by have := here.le_exponent; omega)
    exact absurd holds'
      (not_holds_of_exponent_lt positive here.significand_lt normal here.le_exponent less holds)
  · rcases Nat.lt_trichotomy m m' with less | rfl | greater
    · exact absurd holds' (not_holds_of_significand_lt positive less holds)
    · exact ⟨rfl, rfl⟩
    · exact absurd holds (not_holds_of_significand_lt positive' greater holds')
  · have normal : 2 ^ 52 ≤ m := here.normal.resolve_right (by have := there.le_exponent; omega)
    exact absurd holds
      (not_holds_of_exponent_lt positive' there.significand_lt normal there.le_exponent greater holds')

end LiteralLexer.Binary64
