import Mathlib.Data.List.Basic
import Mathlib.Data.List.Induction
import Mathlib.Data.Nat.Digits.Defs
import LiteralLexer.Proofs.Digits
import LiteralLexer.Proofs.Number.Grammar
import LiteralLexer.Text.White

/-!
# Conversions with checks

A text is converted to a number with checks: `Radix.parse?` has no result as soon as a character is no
digit of the radix, and `Binary64.ofNumeral` is no number where the text is not written as one.  Neither
check fails for the texts that the recognizer of numbers hands over: a sign and digits of the radix
(`Radix.parse?_eq`), or a sign and decimal digits on either side of a point (`Binary64.ofNumeral_point`).
-/

namespace LiteralLexer

/-! ## Integers -/

namespace Radix

/-- The value of a character in a radix, if it is one of its digits. -/
def digit? (radix : Radix) (c : Char) : Option Nat := (digitValue? c).filter (· < radix.base)

/-- The integer that a text stands for, sign included.  There is no result if a character is no digit, and
no integer if there are no digits or 64 bits are too few. -/
def parse? (radix : Radix) (text : List Char) : Option (Option Int) :=
  let negative : Bool := text.head? = some '-'
  let digits := if negative then text.tail else text
  if digits = [] then some none
  else
    let magnitude? := digits.foldlM (fun n c => (radix.digit? c).map (n * radix.base + ·)) 0
    magnitude?.map fun magnitude =>
      let signed : Int := if negative then -(magnitude : Int) else magnitude
      if Recognizer.fitsInt64 signed then some signed else none

variable {radix : Radix}

theorem digit?_eq {c : Char} (digit : radix.isDigit c = true) :
    radix.digit? c = some ((digitValue? c).getD 0) := by
  obtain ⟨d, value, small⟩ := (Option.any_eq_true _ _).mp digit
  simp [digit?, value, of_decide_eq_true small]

theorem foldlM_digit? {digits : List Char} (all : ∀ c ∈ digits, radix.isDigit c = true) (n : Nat) :
    digits.foldlM (fun n c => (radix.digit? c).map (n * radix.base + ·)) n =
      some (digits.foldl (fun n c => n * radix.base + (digitValue? c).getD 0) n) := by
  induction digits generalizing n with
  | nil => rfl
  | cons c digits ih =>
    obtain ⟨first, others⟩ := List.forall_mem_cons.mp all
    rw [List.foldlM_cons, List.foldl_cons, digit?_eq first]
    exact ih others _

/-- The digits from the last one on are the number in the base of its radix. -/
theorem value_eq_ofDigits (radix : Radix) (digits : List Char) :
    radix.value digits =
      Nat.ofDigits radix.base (digits.reverse.map fun c => (digitValue? c).getD 0) := by
  induction digits using List.reverseRecOn with
  | nil => rfl
  | append_singleton digits c ih =>
    rw [value_concat, List.reverse_append, List.reverse_singleton, List.singleton_append,
      List.map_cons, Nat.ofDigits_cons, ← ih, Nat.add_comm, Nat.mul_comm]

theorem parse?_eq (negative : Bool) {digits : List Char}
    (all : ∀ c ∈ digits, radix.isDigit c = true) :
    radix.parse? (Cluster.join (sign negative) ++ digits) =
      some (Recognizer.toInteger? radix negative digits) := by
  have magnitude := foldlM_digit? all 0
  cases negative with
  | true =>
    simp only [parse?, sign, if_true, Cluster.join_cons, Cluster.toList_single, Cluster.join_nil,
      List.append_nil, List.singleton_append, List.head?_cons, decide_true, List.tail_cons, magnitude]
    cases digits <;> rfl
  | false =>
    have unsigned : digits.head? ≠ some '-' := by
      intro head
      have digit := all '-' (List.mem_of_head? head)
      revert digit
      cases radix <;> decide
    simp only [parse?, sign, Bool.false_eq_true, if_false, Cluster.join_nil, List.nil_append, unsigned,
      decide_false, magnitude]
    cases digits <;> rfl

end Radix

/-! ## Fractions -/

/-- A text that neither begins nor ends with white space. -/
theorem Text.trim_eq_self {cs : List Char} (first : ∀ c, cs.head? = some c → isWhite c = false)
    (last : ∀ c, cs.getLast? = some c → isWhite c = false) : trim cs = cs := by
  have trimStart_eq {cs : List Char} (first : ∀ c, cs.head? = some c → isWhite c = false) :
      trimStart cs = cs := by
    cases cs with
    | nil => rfl
    | cons c cs => simp [trimStart, first c rfl]
  have reversed : trimStart cs.reverse = cs.reverse :=
    trimStart_eq fun c head => last c (by rwa [List.head?_reverse] at head)
  rw [trim, trimStart_eq first, reversed, List.reverse_reverse]

namespace Binary64

/-- The base that a zero and a letter at the front select. -/
def markedBase? : List Char → Option Nat
  | '0' :: letter :: _ =>
    if letter = 'b' ∨ letter = 'B' then some 2
    else if letter = 'o' ∨ letter = 'O' then some 8
    else if letter = 'x' ∨ letter = 'X' then some 16
    else none
  | _ => none

/-- The number that a whole text stands for, white space around it apart.  No text at all is zero, and a
text that is not written as a number is none. -/
def ofNumeral (text : List Char) : Binary64 :=
  let cs := Text.trim text
  if cs = [] then zero false
  else
    match markedBase? cs with
    | some base => ((Text.digits? base (cs.drop 2)).map (ofDecimal false · 0)).getD .nan
    | none =>
      let (negative, unsigned) := Text.splitSign cs
      if unsigned = "Infinity".toList then .infinite negative
      else
        ((decimal? unsigned).map fun (digits, exponent) => ofDecimal negative digits exponent).getD .nan

theorem ofFraction_ne_nan (negative : Bool) (numerator denominator : Nat) :
    ofFraction negative numerator denominator ≠ .nan := by
  have either {p : Prop} [Decidable p] (m : Nat) (e : Int) :
      (if p then infinite negative else finite negative m e) ≠ .nan := by
    split <;> simp
  unfold ofFraction
  exact either _ _

theorem ofDecimal_ne_nan (negative : Bool) (digits : Nat) (exponent : Int) :
    ofDecimal negative digits exponent ≠ .nan := by
  unfold ofDecimal
  split
  · simp [zero]
  · split
    · simp
    · split
      · simp [zero]
      · cases exponent <;> exact ofFraction_ne_nan _ _ _

section Digits

variable {ds es : List Char}

theorem not_isWhite_of_isDigit {c : Char} (digit : c.isDigit = true) : Text.isWhite c = false := by
  have small : c.toNat < 58 := Nat.lt_succ_of_le (Unicode.isDigit_iff.mp digit).2
  exact Unicode.forall_code (p := fun c => c.isDigit = true → Text.isWhite c = false) (by decide)
    small digit

theorem markedBase?_eq_none {cs : List Char}
    (plain : ∀ letter, cs[1]? = some letter → letter.isAlpha = false) : markedBase? cs = none := by
  unfold markedBase?
  split
  · next letter _ =>
    have other {c : Char} (alpha : c.isAlpha = true) : letter ≠ c := by
      rintro rfl
      rw [plain letter rfl] at alpha
      contradiction
    simp [other (c := 'b') (by decide), other (c := 'B') (by decide), other (c := 'o') (by decide),
      other (c := 'O') (by decide), other (c := 'x') (by decide), other (c := 'X') (by decide)]
  · rfl

theorem splitSign_digit {c : Char} (digit : c.isDigit = true) (cs : List Char) :
    Text.splitSign (c :: cs) = (false, c :: cs) := by
  unfold Text.splitSign
  split
  · next same =>
    cases same
    contradiction
  · next same =>
    cases same
    contradiction
  · rfl

theorem digits?_eq (nonempty : ds ≠ []) (all : ∀ c ∈ ds, c.isDigit = true) :
    Text.digits? 10 ds = some (Radix.decimal.value ds) := by
  have zero : '0'.toNat = 48 := rfl
  have inside : ds.any (fun c => decide (10 ≤ (if c.isDigit then c.toNat - '0'.toNat
      else if c.isAlpha then c.toLower.toNat - 'a'.toNat + 10 else 10))) = false := by
    rw [List.any_eq_false]
    intro c member
    have range := Unicode.isDigit_iff.mp (all c member)
    simp only [all c member, if_true, decide_eq_true_eq]
    omega
  simp only [Text.digits?, inside, Bool.or_false, List.isEmpty_iff, nonempty, if_false, Radix.value,
    Option.some.injEq]
  refine List.foldl_ext _ _ _ fun n c member => ?_
  simp [Radix.digitValue?, all c member, Radix.base]

variable (before : ds ≠ []) (behind : es ≠ []) (whole : ∀ c ∈ ds, c.isDigit = true)
  (fraction : ∀ c ∈ es, c.isDigit = true)

include before whole

/-- Digits and what follows them, which is neither a digit nor a point. -/
theorem decimal?_append {rest : List Char}
    (stops : ∀ c, rest.head? = some c → c.isDigit = false ∧ c ≠ '.') :
    decimal? (ds ++ rest) =
      (if rest = [] then some 0 else Text.exponent? rest).map (Radix.decimal.value ds, ·) := by
  have unpointed : rest.head? ≠ some '.' := fun point => (stops _ point).2 rfl
  simp only [decimal?, span_isDigit whole fun c head => (stops c head).1, unpointed]
  by_cases nothing : rest = []
  · simp [nothing, digits?_eq before whole]
  · cases exponent : Text.exponent? rest <;> simp [nothing, exponent, digits?_eq before whole]

include fraction

/-- Digits on either side of a point and what follows them, which is no digit. -/
theorem decimal?_point_append {rest : List Char}
    (stops : ∀ c, rest.head? = some c → c.isDigit = false) :
    decimal? (ds ++ '.' :: (es ++ rest)) =
      (if rest = [] then some 0 else Text.exponent? rest).map
        fun e => (Radix.decimal.value (ds ++ es), e - (es.length : Int)) := by
  have point : ∀ c, ('.' :: (es ++ rest)).head? = some c → c.isDigit = false := by
    rintro _ ⟨⟩
    rfl
  have all : ∀ c ∈ ds ++ es, c.isDigit = true := List.forall_mem_append.mpr ⟨whole, fraction⟩
  have nonempty : ds ++ es ≠ [] := fun empty => before (List.append_eq_nil_iff.mp empty).1
  simp only [decimal?, span_isDigit whole point, List.head?_cons, List.tail_cons,
    span_isDigit fraction stops]
  by_cases nothing : rest = []
  · simp [nothing, digits?_eq nonempty all]
  · cases exponent : Text.exponent? rest <;> simp [nothing, exponent, digits?_eq nonempty all]

theorem decimal?_point :
    decimal? (ds ++ '.' :: es) = some (Radix.decimal.value (ds ++ es), -(es.length : Int)) := by
  have stops : ∀ c, ([] : List Char).head? = some c → c.isDigit = false := by
    intro c head
    contradiction
  simpa using decimal?_point_append before whole fraction stops

include behind

/-- Digits on either side of a point are a number, with or without a sign. -/
theorem ofNumeral_point (negative : Bool) :
    ofNumeral (Cluster.join (sign negative) ++ (ds ++ '.' :: es)) =
      ofDecimal negative (Radix.decimal.value (ds ++ es)) (-es.length) := by
  obtain ⟨d, ds, rfl⟩ := List.exists_cons_of_ne_nil before
  have digit := whole d List.mem_cons_self
  have unsigned := decimal?_point before whole fraction
  -- white space is neither before the sign or first digit nor behind the last
  have trimmed : Text.trim (Cluster.join (sign negative) ++ (d :: ds ++ '.' :: es)) =
      Cluster.join (sign negative) ++ (d :: ds ++ '.' :: es) := by
    apply Text.trim_eq_self
    · intro c head
      cases negative with
      | true =>
        cases head
        decide
      | false =>
        cases head
        exact not_isWhite_of_isDigit digit
    · intro c last
      have final : es.getLast? = some c := by
        simpa [List.getLast?_append, List.getLast?_cons, List.getLast?_eq_some_getLast behind] using last
      exact not_isWhite_of_isDigit (fraction c (List.mem_of_getLast? final))
  have signed : Text.splitSign (Cluster.join (sign negative) ++ (d :: ds ++ '.' :: es)) =
      (negative, d :: ds ++ '.' :: es) := by
    cases negative with
    | true => rfl
    | false => exact splitSign_digit digit _
  -- no letter comes second, so no base but ten is selected
  have unmarked : markedBase? (Cluster.join (sign negative) ++ (d :: ds ++ '.' :: es)) = none := by
    apply markedBase?_eq_none
    intro letter second
    have notAlpha {c : Char} (digit : c.isDigit = true) : c.isAlpha = false := by
      rw [Bool.eq_false_iff, ne_eq, Unicode.isAlpha_iff]
      have range := Unicode.isDigit_iff.mp digit
      omega
    cases negative with
    | true =>
      cases second
      exact notAlpha digit
    | false =>
      cases ds with
      | nil =>
        cases second
        rfl
      | cons e ds =>
        cases second
        exact notAlpha (whole letter (by simp))
  have finite : d :: ds ++ '.' :: es ≠ "Infinity".toList := by
    intro same
    cases (List.cons.inj same).1
    contradiction
  have nonempty : Cluster.join (sign negative) ++ (d :: ds ++ '.' :: es) ≠ [] := by simp
  simp only [ofNumeral, trimmed, nonempty, unmarked, signed, finite, if_false, unsigned,
    Option.map_some, Option.getD_some]

end Digits

end Binary64

end LiteralLexer
