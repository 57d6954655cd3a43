import LiteralLexer.Proofs.Binary64.Rounding

/-!
# Shortest decimals read back

The decimal that `Binary64.shortest` finds for a number of the format belongs to the interval of the number
(`Normalized.holds_shortest`).  Every multiple of a power of ten that is tested is tested against the interval,
so the point is that the search ends in time: 17 digits make a grid that is fine enough for the nearest
multiple to lie in the interval.
-/

namespace LiteralLexer.Binary64

/-! ## Powers of ten below a number -/

theorem ten_pow_le_of_toDigits {n : Nat} (positive : 0 < n) :
    10 ^ ((Nat.toDigits 10 n).length - 1) ≤ n := by
  have some := Nat.length_toDigits_pos (b := 10) (n := n)
  by_cases one : (Nat.toDigits 10 n).length - 1 = 0
  · rw [one]
    exact positive
  · apply Nat.le_of_not_lt
    intro less
    have fewer := (Nat.length_toDigits_le_iff (by decide) (by omega)).mpr less
    omega

theorem lt_ten_pow_toDigits (n : Nat) : n < 10 ^ (Nat.toDigits 10 n).length :=
  (Nat.length_toDigits_le_iff (by decide) Nat.length_toDigits_pos).mp (Nat.le_refl _)

/-- The decimal exponent of a fraction is not too great. -/
theorem ten_zpow_decimalExponent_le {numerator denominator : Nat} (positive : 0 < numerator)
    (nonzero : 0 < denominator) :
    (10 : ℚ) ^ decimalExponent numerator denominator * denominator ≤ numerator := by
  unfold decimalExponent
  split
  · next whole =>
    have quotient : 0 < numerator / denominator := Nat.div_pos whole nonzero
    have least := Nat.mul_le_of_le_div _ _ _ (ten_pow_le_of_toDigits quotient)
    have some := Nat.length_toDigits_pos (b := 10) (n := numerator / denominator)
    obtain ⟨k, length⟩ : ∃ k, (Nat.toDigits 10 (numerator / denominator)).length = k + 1 :=
      ⟨_, (Nat.sub_add_cancel some).symm⟩
    rw [length, Nat.add_sub_cancel] at least
    rw [length]
    have exponent : (((k + 1 : Nat) : Int) - 1) = (k : Nat) := by omega
    rw [exponent, zpow_natCast]
    exact_mod_cast least
  · next fraction =>
    have small : denominator < numerator * 10 ^ (Nat.toDigits 10 (denominator / numerator)).length := by
      rw [Nat.mul_comm]
      exact (Nat.div_lt_iff_lt_mul positive).mp (lt_ten_pow_toDigits _)
    have some := Nat.length_toDigits_pos (b := 10) (n := denominator / numerator)
    generalize (Nat.toDigits 10 (denominator / numerator)).length = places at small some ⊢
    dsimp only
    split
    · next exact =>
      obtain ⟨k, rfl⟩ : ∃ k, places = k + 1 := ⟨places - 1, by omega⟩
      have exponent : (1 - ((k + 1 : Nat) : Int)) = -(k : Nat) := by omega
      rw [exponent, zpow_neg, zpow_natCast, ← exact, Nat.add_sub_cancel]
      have ten : (0 : ℚ) < 10 ^ k := by positivity
      have cast : ((numerator * Nat.pow 10 k : Nat) : ℚ) = 10 ^ k * numerator := by
        rw [Nat.cast_mul, mul_comm]
        norm_cast
      rw [cast, inv_mul_cancel_left₀ ten.ne']
    · rw [zpow_neg, zpow_natCast, inv_mul_le_iff₀ (by positivity), mul_comm]
      exact_mod_cast small.le

/-! ## The nearest multiple -/

namespace ReadInterval

/-- The test of a multiple of a power of ten, on a grid that the interval is scaled to. -/
def inside (i : ReadInterval) (grow divisor n : Nat) : Bool :=
  if i.closed then i.low * grow ≤ n * divisor && n * divisor ≤ i.high * grow
  else i.low * grow < n * divisor && n * divisor < i.high * grow

variable {i : ReadInterval} {grow divisor n : Nat} {unit : Int}

theorem inside_iff (positive : 0 < grow) (grid : (divisor : ℚ) = grow * (i.denominator * 10 ^ unit)) :
    i.inside grow divisor n = true ↔ i.Holds (n * 10 ^ unit) := by
  have positive' : (0 : ℚ) < grow := Nat.cast_pos.mpr positive
  have scaled : ((n * divisor : Nat) : ℚ) = n * 10 ^ unit * i.denominator * grow := by
    rw [Nat.cast_mul, grid]
    ring
  have le (bound : Nat) :
      bound * grow ≤ n * divisor ↔ (bound : ℚ) ≤ n * 10 ^ unit * i.denominator := by
    rw [← Nat.cast_le (α := ℚ), scaled, Nat.cast_mul, mul_le_mul_iff_left₀ positive']
  have ge (bound : Nat) :
      n * divisor ≤ bound * grow ↔ n * 10 ^ unit * i.denominator ≤ (bound : ℚ) := by
    rw [← Nat.cast_le (α := ℚ), scaled, Nat.cast_mul, mul_le_mul_iff_left₀ positive']
  have lt (bound : Nat) :
      bound * grow < n * divisor ↔ (bound : ℚ) < n * 10 ^ unit * i.denominator := by
    rw [← not_le, ge, not_le]
  have gt (bound : Nat) :
      n * divisor < bound * grow ↔ n * 10 ^ unit * i.denominator < (bound : ℚ) := by
    rw [← not_le, le, not_le]
  unfold inside Holds
  split <;> simp only [Bool.and_eq_true, decide_eq_true_eq, le, ge, lt, gt]

end ReadInterval

/-- The multiples of a power of ten that are tested, and the grid they are tested on. -/
theorem exists_nearestMultiple? (i : ReadInterval) (unit : Int) (nonzero : 0 < i.denominator) :
    ∃ grow divisor : Nat, 0 < grow ∧ 0 < divisor ∧
      (divisor : ℚ) = grow * (i.denominator * 10 ^ unit) ∧
      nearestMultiple? i unit =
        if i.inside grow divisor (roundQuotient (i.value * grow) divisor) then
          some (roundQuotient (i.value * grow) divisor)
        else if i.inside grow divisor (i.value * grow / divisor) then some (i.value * grow / divisor)
        else if i.inside grow divisor (i.value * grow / divisor + 1) then
          some (i.value * grow / divisor + 1)
        else none := by
  cases unit with
  | ofNat k =>
    refine ⟨1, i.denominator * 10 ^ k, Nat.one_pos, by positivity, ?_, rfl⟩
    simp
  | negSucc k =>
    refine ⟨10 ^ (k + 1), i.denominator, by positivity, nonzero, ?_, rfl⟩
    have ten : (10 : ℚ) ^ (k + 1) ≠ 0 := by positivity
    rw [zpow_negSucc, mul_comm (i.denominator : ℚ), Nat.cast_pow, Nat.cast_ofNat,
      mul_inv_cancel_left₀ ten]

/-- A multiple that is found belongs to the interval. -/
theorem holds_of_nearestMultiple? {i : ReadInterval} {unit : Int} {n : Nat} (nonzero : 0 < i.denominator)
    (found : nearestMultiple? i unit = some n) : i.Holds (n * 10 ^ unit) := by
  obtain ⟨grow, divisor, positive, _, grid, tested⟩ := exists_nearestMultiple? i unit nonzero
  rw [tested] at found
  apply (ReadInterval.inside_iff positive grid).mp
  split at found
  · cases found
    assumption
  · split at found
    · cases found
      assumption
    · split at found
      · cases found
        assumption
      · contradiction

/-! ## Seventeen digits -/

variable {m : Nat} {e : Int} {t x : ℚ}

/-- A grid of 17 digits is finer than the interval. -/
theorem Normalized.grid_lt (here : Normalized m e) (fine : t * 10 ^ 16 ≤ 4 * m * quarter e) :
    t < 2 * reach m e * quarter e := by
  have unit := quarter_pos e
  have coarse : 4 * (m : ℚ) < 2 * reach m e * 10 ^ 16 := by
    unfold reach
    split
    · next power =>
      rw [power.1]
      norm_num
    · have bound : (m : ℚ) < 2 ^ 53 := by exact_mod_cast here.significand_lt
      push_cast
      linarith
  have scaled : 4 * (m : ℚ) * quarter e < 2 * reach m e * 10 ^ 16 * quarter e :=
    mul_lt_mul_of_pos_right coarse unit
  linarith

/-- What is as near to a number as a grid of 17 digits allows belongs to its interval. -/
theorem Normalized.holds_near (here : Normalized m e) (positive : 0 < m)
    (fine : t * 10 ^ 16 ≤ 4 * m * quarter e) (below : 2 * (4 * m * quarter e) ≤ 2 * x + t)
    (above : 2 * x ≤ 2 * (4 * m * quarter e) + t) : (readInterval m e).Holds x := by
  have less := here.grid_lt fine
  have small : (reach m e : ℚ) * quarter e ≤ 2 * quarter e :=
    mul_le_mul_of_nonneg_right (by exact_mod_cast reach_le m e) (quarter_pos e).le
  have low : (4 * m - reach m e) * quarter e < x := by linarith
  have high : x < (4 * m + 2) * quarter e := by linarith
  rw [holds_readInterval_iff positive]
  split
  · exact ⟨low.le, high.le⟩
  · exact ⟨low, high⟩

/-- A multiple of a unit of 17 digits is found. -/
theorem Normalized.nearestMultiple?_isSome (here : Normalized m e) (positive : 0 < m) {unit : Int}
    (fine : (10 : ℚ) ^ unit * 10 ^ 16 ≤ 4 * m * quarter e) :
    (nearestMultiple? (readInterval m e) unit).isSome = true := by
  have nonzero := readInterval_denominator_pos m e
  have value := readInterval_value m e
  obtain ⟨grow, divisor, growing, positive', grid, tested⟩ := exists_nearestMultiple? _ unit nonzero
  have near := roundQuotient_near ((readInterval m e).value * grow) positive'
  generalize roundQuotient ((readInterval m e).value * grow) divisor = n at near tested
  -- half a unit is the distance on the grid, and so it is between the rationals
  have common : (0 : ℚ) < grow * (readInterval m e).denominator :=
    mul_pos (Nat.cast_pos.mpr growing) (Nat.cast_pos.mpr nonzero)
  have below : 2 * (4 * m * quarter e) ≤ 2 * (n * (10 : ℚ) ^ unit) + 10 ^ unit := by
    have cast : ((2 * ((readInterval m e).value * grow) : Nat) : ℚ) ≤
      (2 * (n * divisor) + divisor : Nat) := Nat.cast_le.mpr near.1
    push_cast [grid, value] at cast
    exact le_of_mul_le_mul_right (by linarith) common
  have above : 2 * (n * (10 : ℚ) ^ unit) ≤ 2 * (4 * m * quarter e) + 10 ^ unit := by
    have cast : ((2 * (n * divisor) : Nat) : ℚ) ≤
      (2 * ((readInterval m e).value * grow) + divisor : Nat) := Nat.cast_le.mpr near.2
    push_cast [grid, value] at cast
    exact le_of_mul_le_mul_right (by linarith) common
  have inside := (ReadInterval.inside_iff growing grid).mpr (here.holds_near positive fine below above)
  rw [tested, if_pos inside]
  rfl

/-! ## The search -/

/-- The power of ten below a number. -/
def top (m : Nat) (e : Int) : Int :=
  decimalExponent (readInterval m e).value (readInterval m e).denominator

theorem ten_zpow_top_le (positive : 0 < m) : (10 : ℚ) ^ top m e ≤ 4 * m * quarter e := by
  have nonzero : (0 : ℚ) < (readInterval m e).denominator :=
    Nat.cast_pos.mpr (readInterval_denominator_pos m e)
  have value := readInterval_value m e
  have some : (0 : ℚ) < (readInterval m e).value := by
    rw [value]
    exact mul_pos (mul_pos (by exact_mod_cast Nat.mul_pos (by decide) positive) (quarter_pos e)) nonzero
  have below := ten_zpow_decimalExponent_le (Nat.cast_pos.mp some) (readInterval_denominator_pos m e)
  rw [value] at below
  exact le_of_mul_le_mul_right below nonzero

/-- The shortest decimal is one of the multiples that are tested, unless none is found. -/
theorem shortest_cases (m : Nat) (e : Int) :
    (∃ places : Nat, nearestMultiple? (readInterval m e) (top m e - places) = some (shortest m e).1 ∧
      (shortest m e).2 = top m e - places) ∨
    shortest m e = (m, 0) ∧ nearestMultiple? (readInterval m e) (top m e - (16 : Nat)) = none := by
  have searched : shortest m e = ((List.range 17).findSome? fun (places : Nat) =>
    (nearestMultiple? (readInterval m e) (top m e - places)).map
      fun n => (n, top m e - (places : Int))).getD (m, 0) := rfl
  rw [searched]
  cases found : (List.range 17).findSome? fun (places : Nat) =>
      (nearestMultiple? (readInterval m e) (top m e - places)).map fun n => (n, top m e - (places : Int)) with
  | some decimal =>
    obtain ⟨places, _, multiple⟩ := List.exists_of_findSome?_eq_some found
    obtain ⟨n, isMultiple, rfl⟩ := Option.map_eq_some_iff.mp multiple
    exact .inl ⟨places, isMultiple, rfl⟩
  | none =>
    have last := List.findSome?_eq_none_iff.mp found 16 (by decide)
    exact .inr ⟨rfl, Option.map_eq_none_iff.mp last⟩

/-- The shortest decimal of a number reads back as it. -/
theorem Normalized.holds_shortest (here : Normalized m e) (positive : 0 < m) :
    (readInterval m e).Holds ((shortest m e).1 * 10 ^ (shortest m e).2) := by
  rcases shortest_cases m e with ⟨places, found, unit⟩ | ⟨_, last⟩
  · rw [unit]
    exact holds_of_nearestMultiple? (readInterval_denominator_pos m e) found
  · -- the last unit tested is fine enough
    have unit : (10 : ℚ) ^ (top m e - (16 : Nat)) * 10 ^ 16 = 10 ^ top m e := by
      rw [← zpow_natCast, ← zpow_add₀ (by norm_num), Int.sub_add_cancel]
    have some := here.nearestMultiple?_isSome positive (unit.trans_le (ten_zpow_top_le positive))
    rw [last] at some
    contradiction

theorem shortest_pos (positive : 0 < m) : 0 < (shortest m e).1 := by
  rcases shortest_cases m e with ⟨places, found, _⟩ | ⟨fallback, _⟩
  · have holds := holds_of_nearestMultiple? (readInterval_denominator_pos m e) found
    apply Nat.pos_of_ne_zero
    intro zero
    rw [zero, Nat.cast_zero, zero_mul] at holds
    exact not_holds_zero positive holds
  · rw [fallback]
    exact positive

end LiteralLexer.Binary64
