import LiteralLexer.Proofs.Binary64.Interval

/-!
# Rounding stays in the format

What is read as a number is a number of the format (`ofDecimal_representable`): the exponent is chosen so that
53 bits are left before the quotient is rounded, and rounding leads out of them by one at most.
-/

namespace LiteralLexer.Binary64

/-! ## Rounded quotients -/

/-- A quotient is off by one half at most. -/
theorem roundQuotient_near (numerator : Nat) {denominator : Nat} (nonzero : 0 < denominator) :
    2 * numerator ≤ 2 * (roundQuotient numerator denominator * denominator) + denominator ∧
      2 * (roundQuotient numerator denominator * denominator) ≤ 2 * numerator + denominator := by
  have split := Nat.div_add_mod' numerator denominator
  have less := Nat.mod_lt numerator nonzero
  have more := Nat.succ_mul (numerator / denominator) denominator
  simp only [roundQuotient]
  split
  · omega
  · split
    · rw [more]
      omega
    · rcases Nat.mod_two_eq_zero_or_one (numerator / denominator) with even | odd
      · rw [even, Nat.add_zero]
        omega
      · rw [odd, more]
        omega

/-- Rounding does not lead over an integer. -/
theorem roundQuotient_le {numerator denominator bound : Nat} (nonzero : 0 < denominator)
    (less : numerator ≤ bound * denominator) : roundQuotient numerator denominator ≤ bound := by
  have near := (roundQuotient_near numerator nonzero).2
  apply Nat.le_of_not_lt
  intro greater
  have next := Nat.mul_le_mul_right denominator (Nat.succ_le_of_lt greater)
  rw [Nat.succ_mul] at next
  omega

theorem le_roundQuotient {numerator denominator bound : Nat} (nonzero : 0 < denominator)
    (less : bound * denominator ≤ numerator) : bound ≤ roundQuotient numerator denominator := by
  have near := (roundQuotient_near numerator nonzero).1
  apply Nat.le_of_not_lt
  intro smaller
  have next := Nat.mul_le_mul_right denominator (Nat.succ_le_of_lt smaller)
  rw [Nat.succ_mul] at next
  omega

/-! ## The exponent -/

variable {numerator denominator : Nat}

/-- Scaling by a power of two, as a fraction. -/
theorem scaleDown_spec (numerator : Nat) (nonzero : 0 < denominator) (k : Int) :
    0 < (scaleDown numerator denominator k).2 ∧
      ((scaleDown numerator denominator k).1 : ℚ) / (scaleDown numerator denominator k).2 =
        (numerator : ℚ) / denominator / 2 ^ k := by
  cases k with
  | ofNat k =>
    refine ⟨Nat.mul_pos nonzero (Nat.two_pow_pos k), ?_⟩
    have cast : ((denominator * Nat.pow 2 k : Nat) : ℚ) = denominator * 2 ^ k := by
      rw [Nat.cast_mul]
      norm_cast
    rw [Int.ofNat_eq_natCast, zpow_natCast, div_div, ← cast]
    rfl
  | negSucc k =>
    refine ⟨nonzero, ?_⟩
    have cast : ((numerator * Nat.pow 2 (k + 1) : Nat) : ℚ) = numerator * 2 ^ (k + 1) := by
      rw [Nat.cast_mul]
      norm_cast
    rw [zpow_negSucc, div_inv_eq_mul, div_mul_eq_mul_div, ← cast]
    rfl

/-- The logarithms of a fraction bound it within two powers of two. -/
theorem log2_bounds (positive : 0 < numerator) (nonzero : 0 < denominator) :
    (2 : ℚ) ^ ((numerator.log2 : Int) - denominator.log2 - 1) ≤ (numerator : ℚ) / denominator ∧
      (numerator : ℚ) / denominator < 2 ^ ((numerator.log2 : Int) - denominator.log2 + 1) := by
  have bounds {n : Nat} (some : 0 < n) : (2 : ℚ) ^ (n.log2 : Int) ≤ n ∧ (n : ℚ) < 2 ^ ((n.log2 : Int) + 1) := by
    have least := Nat.log2_self_le (Nat.pos_iff_ne_zero.mp some)
    have most := Nat.lt_log2_self (n := n)
    rw [← Nat.cast_succ, zpow_natCast, zpow_natCast]
    exact ⟨by exact_mod_cast least, by exact_mod_cast most⟩
  have two : (2 : ℚ) ≠ 0 := by norm_num
  obtain ⟨least, most⟩ := bounds positive
  obtain ⟨least', most'⟩ := bounds nonzero
  have denominator_pos : (0 : ℚ) < denominator := Nat.cast_pos.mpr nonzero
  constructor
  · rw [Int.sub_sub, zpow_sub₀ two]
    exact div_le_div₀ (Nat.cast_nonneg _) least denominator_pos most'.le
  · rw [sub_add_eq_add_sub, zpow_sub₀ two]
    exact div_lt_div₀ most least' (zpow_pos (by norm_num) _).le (zpow_pos (by norm_num) _)

variable {e p : Int}

/-- Comparing the fraction with the power of two between the bounds settles which of them is near. -/
theorem exists_exponent (positive : 0 < numerator) (nonzero : 0 < denominator) {estimate : Int}
    (logarithms : (numerator.log2 : Int) - denominator.log2 = estimate) :
    ∃ p : Int, (2 : ℚ) ^ p ≤ (numerator : ℚ) / denominator ∧ (numerator : ℚ) / denominator < 2 ^ (p + 1) ∧
      (if (scaleDown numerator denominator estimate).2 ≤ (scaleDown numerator denominator estimate).1 then
        estimate - 52 else estimate - 53) = p - 52 := by
  obtain ⟨lower, upper⟩ := log2_bounds positive nonzero
  obtain ⟨nonzero', quotient⟩ := scaleDown_spec numerator nonzero estimate
  rw [logarithms] at lower upper
  have unit : (0 : ℚ) < 2 ^ estimate := zpow_pos (by norm_num) _
  have denominator_pos : (0 : ℚ) < (scaleDown numerator denominator estimate).2 := Nat.cast_pos.mpr nonzero'
  have compare : (scaleDown numerator denominator estimate).2 ≤ (scaleDown numerator denominator estimate).1 ↔
      (2 : ℚ) ^ estimate ≤ (numerator : ℚ) / denominator := by
    rw [← one_le_div₀ unit, ← quotient, one_le_div₀ denominator_pos, Nat.cast_le]
  split
  · next more => exact ⟨estimate, compare.mp more, upper, rfl⟩
  · next less =>
    refine ⟨estimate - 1, lower, ?_, by omega⟩
    rw [Int.sub_add_cancel]
    exact not_le.mp fun more => less (compare.mpr more)

/-- The quotient that is rounded has 53 bits, or fewer at the least exponent. -/
theorem roundQuotient_bounds (nonzero : 0 < denominator) (least : (2 : ℚ) ^ p ≤ (numerator : ℚ) / denominator)
    (most : (numerator : ℚ) / denominator < 2 ^ (p + 1)) (exponent : e = max minExponent (p - 52)) :
    roundQuotient (scaleDown numerator denominator e).1 (scaleDown numerator denominator e).2 ≤ 2 ^ 53 ∧
      (2 ^ 52 ≤ roundQuotient (scaleDown numerator denominator e).1 (scaleDown numerator denominator e).2 ∨
        e = minExponent) := by
  obtain ⟨nonzero', quotient⟩ := scaleDown_spec numerator nonzero e
  generalize (scaleDown numerator denominator e).1 = n at quotient ⊢
  generalize (scaleDown numerator denominator e).2 = d at nonzero' quotient ⊢
  have positive : (0 : ℚ) < d := Nat.cast_pos.mpr nonzero'
  have two : (2 : ℚ) ≠ 0 := by norm_num
  constructor
  · apply roundQuotient_le nonzero'
    have reach : (2 : ℚ) ^ (p + 1) ≤ 2 ^ 53 * 2 ^ e := by
      rw [← zpow_natCast, ← zpow_add₀ two]
      exact zpow_le_zpow_right₀ (by norm_num) (by omega)
    have less : (n : ℚ) / d ≤ 2 ^ 53 := by
      rw [quotient, div_le_iff₀ (zpow_pos (by norm_num) _)]
      exact most.le.trans reach
    rw [div_le_iff₀ positive] at less
    exact_mod_cast less
  · by_cases smallest : e = minExponent
    · exact .inr smallest
    · apply Or.inl
      apply le_roundQuotient nonzero'
      have reach : (2 : ℚ) ^ 52 * 2 ^ e = 2 ^ p := by
        rw [← zpow_natCast, ← zpow_add₀ two]
        congr 1
        omega
      have more : (2 : ℚ) ^ 52 ≤ (n : ℚ) / d := by
        rw [quotient, le_div_iff₀ (zpow_pos (by norm_num) _), reach]
        exact least
      rw [le_div_iff₀ positive] at more
      exact_mod_cast more

/-! ## Numbers that are read -/

theorem ofFraction_representable (negative : Bool) (positive : 0 < numerator) (nonzero : 0 < denominator) :
    (ofFraction negative numerator denominator).Representable := by
  obtain ⟨p, least, most, exponent⟩ := exists_exponent positive nonzero rfl
  simp only [ofFraction, exponent]
  obtain ⟨bound, normal⟩ := roundQuotient_bounds nonzero least most rfl
  have lowest : minExponent ≤ max minExponent (p - 52) := Int.le_max_left _ _
  generalize max minExponent (p - 52) = e at bound normal lowest ⊢
  generalize roundQuotient (scaleDown numerator denominator e).1 (scaleDown numerator denominator e).2 = r
    at bound normal ⊢
  have power : Nat.pow 2 53 = 2 ^ 53 := rfl
  by_cases full : r = Nat.pow 2 53
  · -- one bit too many, so the significand is halved
    rw [if_pos full]
    split
    · trivial
    · next within =>
      have halved : Nat.pow 2 52 < 2 ^ 53 := by decide
      exact ⟨halved, by omega, Int.not_lt.mp within, .inl (Nat.le_refl _)⟩
  · rw [if_neg full]
    split
    · trivial
    · next within => exact ⟨by omega, lowest, Int.not_lt.mp within, normal⟩

theorem zero_representable (negative : Bool) : (zero negative).Representable :=
  ⟨by decide, Int.le_refl _, by decide, .inr rfl⟩

/-- A decimal is read as a number of the format. -/
theorem ofDecimal_representable (negative : Bool) (digits : Nat) (exponent : Int) :
    (ofDecimal negative digits exponent).Representable := by
  unfold ofDecimal
  split
  · exact zero_representable negative
  · next some =>
    have positive := Nat.pos_of_ne_zero some
    split
    · trivial
    · split
      · exact zero_representable negative
      · cases exponent with
        | ofNat k =>
          exact ofFraction_representable negative (Nat.mul_pos positive (Nat.pow_pos (by decide))) Nat.one_pos
        | negSucc k => exact ofFraction_representable negative positive (Nat.pow_pos (by decide))

end LiteralLexer.Binary64
