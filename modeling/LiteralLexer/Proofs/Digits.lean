import Mathlib.Algebra.Group.Nat.Defs
import LiteralLexer.Recognizer.Number

/-!
# Positional notation

The digits of a number in a radix have the number as their value, and so they have if zeros stand before
them and if their letters are written large.  The text of an integer is a sign and such digits.
-/

namespace LiteralLexer

/-- Where digits end in a text. -/
theorem span_isDigit {ds rest : List Char} (digits : ∀ c ∈ ds, c.isDigit = true)
    (stops : ∀ c, rest.head? = some c → c.isDigit = false) :
    (ds ++ rest).takeWhile Char.isDigit = ds ∧ (ds ++ rest).dropWhile Char.isDigit = rest := by
  rw [List.takeWhile_append_of_pos digits, List.dropWhile_append_of_pos digits]
  cases rest with
  | nil => simp
  | cons c rest => simp [stops c rfl]

/-- A text behind a sign. -/
def behindSign (negative : Bool) (text : List Char) : List Char := (if negative then ['-'] else []) ++ text

/-- A sign can be told from what stands behind it. -/
theorem behindSign_inj {negative negative' : Bool} {text text' : List Char}
    (unsigned : text.head? ≠ some '-') (unsigned' : text'.head? ≠ some '-')
    (same : behindSign negative text = behindSign negative' text') :
    negative = negative' ∧ text = text' := by
  cases negative with
  | false =>
    cases negative' with
    | false => exact ⟨rfl, same⟩
    | true =>
      have signed : text = '-' :: text' := same
      exact absurd (by rw [signed]; rfl) unsigned
  | true =>
    cases negative' with
    | false =>
      have signed : '-' :: text = text' := same
      exact absurd (by rw [← signed]; rfl) unsigned'
    | true => exact ⟨rfl, (List.cons.inj same).2⟩

namespace Radix

theorem one_lt_base (radix : Radix) : 1 < radix.base := by
  cases radix <;> decide

theorem base_le (radix : Radix) : radix.base ≤ 16 := by
  cases radix <;> decide

/-! ## One digit -/

theorem digitValue?_digitChar {d : Nat} (small : d < 16) : digitValue? d.digitChar = some d := by
  revert d
  decide

theorem isDigit_digitChar {radix : Radix} {d : Nat} (small : d < radix.base) :
    radix.isDigit d.digitChar = true := by
  rw [isDigit, digitValue?_digitChar (Nat.lt_of_lt_of_le small radix.base_le)]
  exact decide_eq_true small

/-- The letters among the digits stand for the same in either case. -/
theorem digitValue?_toLower (c : Char) : digitValue? c.toLower = digitValue? c := by
  have letters : ∀ n < 91, 65 ≤ n →
      digitValue? (Char.ofNat n).toLower = digitValue? (Char.ofNat n) := by decide
  by_cases upper : c.val ≥ 'A'.val ∧ c.val ≤ 'Z'.val
  · -- there are few enough of these to look at each
    have least : 65 ≤ c.toNat := upper.1
    have greatest : c.toNat ≤ 90 := upper.2
    have letter := letters c.toNat (by omega) least
    rwa [Char.ofNat_toNat] at letter
  · have same : c.toLower = c := dif_neg upper
    rw [same]

theorem isDigit_toLower (radix : Radix) (c : Char) :
    radix.isDigit c.toLower = radix.isDigit c := by
  rw [isDigit, isDigit, digitValue?_toLower]

/-- The digits of the radix ten are those of ASCII. -/
theorem isDigit_of_decimal {c : Char} (digit : Radix.decimal.isDigit c = true) :
    c.isDigit = true := by
  obtain ⟨d, value, small⟩ := (Option.any_eq_true _ _).mp digit
  have least : d < 10 := of_decide_eq_true small
  unfold digitValue? at value
  split at value
  · next decimal => exact decimal
  · -- a letter stands for ten at least
    split at value
    · cases value
      omega
    · split at value
      · cases value
        omega
      · contradiction

/-! ## All digits -/

section Value

variable (radix : Radix)

theorem value_concat (ds : List Char) (d : Char) :
    radix.value (ds ++ [d]) = radix.value ds * radix.base + (digitValue? d).getD 0 := by
  rw [value, List.foldl_append]
  rfl

theorem value_toDigits (n : Nat) : radix.value (Nat.toDigits radix.base n) = n := by
  induction n using Nat.strongRecOn with
  | ind n ih =>
    have last (d : Nat) (small : d < radix.base) : (digitValue? d.digitChar).getD 0 = d := by
      rw [digitValue?_digitChar (Nat.lt_of_lt_of_le small radix.base_le), Option.getD_some]
    -- a number of several digits is those of its quotient and a last one
    by_cases small : n < radix.base
    · rw [Nat.toDigits_of_lt_base small, ← List.nil_append [n.digitChar], value_concat, last n small]
      simp [value]
    · have positive := Nat.lt_of_succ_lt radix.one_lt_base
      have fewer : n / radix.base < n := Nat.div_lt_self (by omega) radix.one_lt_base
      have lastSmall : n % radix.base < radix.base := Nat.mod_lt n positive
      rw [Nat.toDigits_of_base_le radix.one_lt_base (by omega), value_concat, ih _ fewer,
        last _ lastSmall]
      exact Nat.div_add_mod' n radix.base

theorem isDigit_of_mem_toDigits {n : Nat} {c : Char} (member : c ∈ Nat.toDigits radix.base n) :
    radix.isDigit c = true := by
  induction n using Nat.strongRecOn with
  | ind n ih =>
    by_cases small : n < radix.base
    · rw [Nat.toDigits_of_lt_base small] at member
      rw [List.mem_singleton.mp member]
      exact isDigit_digitChar small
    · rw [Nat.toDigits_of_base_le radix.one_lt_base (by omega)] at member
      rcases List.mem_append.mp member with before | last
      · exact ih _ (Nat.div_lt_self (by have := radix.one_lt_base; omega) radix.one_lt_base) before
      · rw [List.mem_singleton.mp last]
        exact isDigit_digitChar (Nat.mod_lt n (Nat.lt_of_succ_lt radix.one_lt_base))

theorem value_zeros (zeros : Nat) (ds : List Char) :
    radix.value (List.replicate zeros '0' ++ ds) = radix.value ds := by
  induction zeros with
  | zero => rfl
  | succ zeros ih =>
    have zero : (digitValue? '0').getD 0 = 0 := by decide
    rw [List.replicate_succ, List.cons_append, value, List.foldl_cons, zero, Nat.zero_mul]
    exact ih

theorem value_append_zeros (ds : List Char) (zeros : Nat) :
    radix.value (ds ++ List.replicate zeros '0') = radix.value ds * radix.base ^ zeros := by
  induction zeros with
  | zero => simp
  | succ zeros ih =>
    have zero : (digitValue? '0').getD 0 = 0 := by decide
    rw [List.replicate_succ', ← List.append_assoc, value_concat, ih, zero, Nat.add_zero, Nat.pow_succ,
      Nat.mul_assoc]

theorem value_toLower (ds : List Char) :
    radix.value (ds.map Char.toLower) = radix.value ds := by
  simp only [value, List.foldl_map, digitValue?_toLower]

end Value

end Radix

/-! ## Texts of integers -/

theorem toList_toString (n : Int) :
    (toString n).toList = behindSign (n < 0) (Nat.toDigits 10 n.natAbs) := by
  cases n with
  | ofNat n =>
    have text : toString (Int.ofNat n) = String.ofList (Nat.toDigits 10 n) := Nat.repr_eq_ofList_toDigits
    rw [text, String.toList_ofList]
    rfl
  | negSucc n =>
    have text : toString (Int.negSucc n) = "-" ++ String.ofList (Nat.toDigits 10 (n + 1)) :=
      congrArg ("-" ++ ·) Nat.repr_eq_ofList_toDigits
    simp only [text, String.toList_append, String.toList_ofList, Int.negSucc_lt_zero, decide_true]
    rfl

theorem toString_inj {n k : Int} (same : toString n = toString k) : n = k := by
  have unsigned (n : Nat) : (Nat.toDigits 10 n).head? ≠ some '-' := by
    intro head
    have digit := Radix.decimal.isDigit_of_mem_toDigits (List.mem_of_head? head)
    contradiction
  have texts := congrArg String.toList same
  rw [toList_toString, toList_toString] at texts
  obtain ⟨signs, digits⟩ := behindSign_inj (unsigned _) (unsigned _) texts
  have values : n.natAbs = k.natAbs := by
    have value (n : Nat) : Radix.decimal.value (Nat.toDigits 10 n) = n := Radix.decimal.value_toDigits n
    rw [← value n.natAbs, digits, value]
  have sides : n < 0 ↔ k < 0 := by simpa using signs
  omega

end LiteralLexer
