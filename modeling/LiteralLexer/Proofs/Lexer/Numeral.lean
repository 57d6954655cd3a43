import LiteralLexer.Proofs.Digits
import LiteralLexer.Proofs.Lexer.Whole
import LiteralLexer.Proofs.Segmentation

/-!
# Integers in every notation

A `Numeral` is one of the many ways to write an integer in one of the four radices: zeros may stand
before its digits, its letters may be small or large, and separators may stand between the digits and
behind them.  Whichever way it is written, the integer is what is read, if 64 bits are enough for it,
and otherwise its text is what is reported (`tokenize_numeral`).
-/

namespace LiteralLexer

/-- A way to write an integer in a radix. -/
structure Numeral (radix : Radix) (v : Int) where
  /-- Whether a sign stands before the number.  For zero this is a matter of taste. -/
  negative : Bool
  /-- The number of zeros before the digits. -/
  zeros : Nat
  /-- The digits and the separators among them, without sign and radix mark. -/
  body : List Char
  signed : v < 0 → negative = true
  unsigned : 0 < v → negative = false
  digits : (body.filter (· ≠ '_')).map Char.toLower =
    List.replicate zeros '0' ++ Nat.toDigits radix.base v.natAbs
  /-- Without a radix mark before it, a number begins with a digit. -/
  begins : radix = .decimal → body.head? ≠ some '_'

namespace Numeral

variable {radix : Radix} {v : Int} (numeral : Numeral radix v)

/-- The characters of a numeral, each a cluster of its own. -/
def clusters : List Cluster :=
  sign numeral.negative ++ (radix.mark ++ numeral.body.map .single)

/-- The text of a numeral. -/
def text : String := Cluster.joinText numeral.clusters

/-! ## The digits -/

theorem isDigit_of_mem {c : Char} (member : c ∈ numeral.body) (other : c ≠ '_') :
    radix.isDigit c = true := by
  have lower : c.toLower ∈ (numeral.body.filter (· ≠ '_')).map Char.toLower :=
    List.mem_map_of_mem (List.mem_filter.mpr ⟨member, decide_eq_true other⟩)
  rw [numeral.digits] at lower
  rw [← radix.isDigit_toLower]
  rcases List.mem_append.mp lower with zero | digit
  · rw [List.eq_of_mem_replicate zero]
    exact Radix.isDigit_digitChar (d := 0) (Nat.lt_of_succ_lt radix.one_lt_base)
  · exact radix.isDigit_of_mem_toDigits digit

theorem continues_of_mem {c : Cluster} (member : c ∈ numeral.body.map .single) :
    radix.continues c = true := by
  obtain ⟨char, inside, rfl⟩ := List.mem_map.mp member
  by_cases separator : char = '_'
  · simp [Radix.continues, Cluster.single, separator]
  · simp [Radix.continues, Cluster.single, numeral.isDigit_of_mem inside separator]

theorem digits_ne_nil : numeral.body.filter (· ≠ '_') ≠ [] := by
  intro empty
  have none := numeral.digits
  rw [empty, List.map_nil] at none
  exact Nat.toDigits_ne_nil (List.append_eq_nil_iff.mp none.symm).2

theorem body_ne_nil : numeral.body ≠ [] := by
  intro empty
  have none := numeral.digits_ne_nil
  rw [empty] at none
  contradiction

theorem clusters_ne_nil : numeral.clusters ≠ [] := by
  simp [clusters, numeral.body_ne_nil]

theorem value_digits : radix.value (numeral.body.filter (· ≠ '_')) = v.natAbs := by
  rw [← radix.value_toLower, numeral.digits, radix.value_zeros, radix.value_toDigits]

/-- The sign goes with the integer, unless that is zero. -/
theorem signed_magnitude : (if numeral.negative then -(v.natAbs : Int) else v.natAbs) = v := by
  have below := numeral.signed
  have above := numeral.unsigned
  cases sign : numeral.negative with
  | true =>
    have notAbove : ¬ 0 < v := fun positive => by simp [above positive] at sign
    rw [if_pos rfl]
    omega
  | false =>
    have notBelow : ¬ v < 0 := fun negative => by simp [below negative] at sign
    rw [if_neg Bool.false_ne_true]
    omega

/-- The integer of a numeral is what its digits are converted to, if it fits. -/
theorem toInteger?_digits :
    Recognizer.toInteger? radix numeral.negative
        (Recognizer.withoutSeparators (numeral.body.map .single)) =
      if Recognizer.fitsInt64 v then some v else none := by
  have heads : (numeral.body.map Cluster.single).map Cluster.head = numeral.body := by
    rw [List.map_map]
    exact List.map_id _
  have nonempty : (numeral.body.filter (· ≠ '_')).isEmpty = false := by
    simpa using numeral.digits_ne_nil
  rw [Recognizer.withoutSeparators, heads, Recognizer.toInteger?, nonempty,
    if_neg Bool.false_ne_true]
  simp only [numeral.value_digits, numeral.signed_magnitude]

/-! ## The text -/

theorem literal_integer :
    Literal numeral.clusters
      (.integer numeral.clusters radix numeral.negative (numeral.body.map .single)) := by
  have inside (c : Cluster) := numeral.continues_of_mem (c := c)
  by_cases decimal : radix = .decimal
  · -- without a mark, the first character has to be a digit for the grammar to see a number
    subst decimal
    obtain ⟨d, rest, body⟩ := List.exists_cons_of_ne_nil numeral.body_ne_nil
    have begins : d ≠ '_' := by
      have begins := numeral.begins rfl
      rwa [body, List.head?_cons, ne_eq, Option.some.injEq] at begins
    have digit : (Cluster.single d).isDigit = true :=
      Radix.isDigit_of_decimal (numeral.isDigit_of_mem (body ▸ List.mem_cons_self) begins)
    rw [body, List.map_cons] at inside
    have others := (List.forall_mem_cons.mp inside).2
    have plain := not_selectsRadix_of_continues (c := .single d) others
    rw [← List.append_nil (_ :: _)] at plain
    have integral : ¬ TakesPoint (.single d :: rest.map .single) [] := by simp [TakesPoint]
    have literal := Literal.whole numeral.negative digit others stops_nil plain integral
    rw [clusters, body, List.map_cons]
    rwa [List.append_nil] at literal
  · have nonempty : numeral.body.map Cluster.single ≠ [] :=
      fun empty => numeral.body_ne_nil (List.map_eq_nil_iff.mp empty)
    have literal := Literal.prefixed numeral.negative decimal nonempty inside stops_nil
    rwa [List.append_nil] at literal

/-- What the grammar says of a numeral. -/
theorem literal :
    Literal numeral.clusters
      (if Recognizer.fitsInt64 v then .accept (.integer v) numeral.clusters.length
        else .reject (.failedConversion numeral.text) numeral.clusters.length) := by
  have literal := numeral.literal_integer
  rw [Scan.integer, toInteger?_digits] at literal
  cases fits : Recognizer.fitsInt64 v with
  | true => simpa [fits] using literal
  | false => simpa [fits, text] using literal

/-- A character of a numeral is a cluster of its own, and not a blank. -/
structure Printed (c : Cluster) : Prop where
  alone : c = .single c.head
  legible : Legible c.head
  solid : c.isWhitespace = false

instance (c : Cluster) : Decidable (Printed c) :=
  decidable_of_iff (c = .single c.head ∧ Legible c.head ∧ c.isWhitespace = false)
    ⟨fun printed => ⟨printed.1, printed.2.1, printed.2.2⟩,
      fun printed => ⟨printed.1, printed.2, printed.3⟩⟩

theorem printed_of_isAlphanum {c : Char} (alphanum : c.isAlphanum = true) :
    Printed (.single c) := by
  refine ⟨rfl, legible_of_isAlphanum alphanum, ?_⟩
  have ascii := (legible_of_isAlphanum alphanum).ascii
  have tab : c ≠ '\t' := by
    rintro rfl
    contradiction
  have space : c ≠ ' ' := by
    rintro rfl
    contradiction
  simp [Cluster.isWhitespace, Unicode.isWhitespace, ascii, tab, space]

theorem printed_of_mem {c : Cluster} (member : c ∈ numeral.clusters) : Printed c := by
  rw [clusters, List.mem_append, List.mem_append] at member
  rcases member with signed | marked | inside
  · have all : ∀ negative, ∀ c ∈ sign negative, Printed c := by decide
    exact all _ c signed
  · have all : ∀ radix : Radix, ∀ c ∈ radix.mark, Printed c := by
      intro radix
      cases radix <;> decide
    exact all _ c marked
  · obtain ⟨char, digit, rfl⟩ := List.mem_map.mp inside
    by_cases separator : char = '_'
    · subst separator
      decide
    · exact printed_of_isAlphanum
        (Radix.isAlphanum_of_isDigit (numeral.isDigit_of_mem digit separator))

theorem word_text : Scan.word numeral.text = numeral.clusters := by
  rw [Scan.word, text, Cluster.joinText, String.toList_ofList]
  exact Cluster.map_single_join fun c member => (numeral.printed_of_mem member).alone

theorem legible_text : LegibleText numeral.text := by
  intro c member
  have inside : Cluster.single c ∈ Scan.word numeral.text := List.mem_map_of_mem member
  rw [word_text] at inside
  exact (numeral.printed_of_mem inside).legible

theorem solid : Stops Cluster.isWhitespace numeral.clusters := by
  intro c head
  exact (numeral.printed_of_mem (List.mem_of_head? head)).solid

/-! ## Without ornament -/

theorem plain_of_mem_toDigits {n : Nat} {c : Char} (member : c ∈ Nat.toDigits 10 n) :
    c ≠ '_' ∧ c.toLower = c := by
  have digit := Nat.isDigit_of_mem_toDigits (by decide) (by decide) member
  have range := Unicode.isDigit_iff.mp digit
  constructor
  · rintro rfl
    contradiction
  · refine dif_neg ?_
    rintro ⟨upper, _⟩
    have least : 65 ≤ c.toNat := upper
    omega

/-- The usual way to write an integer. -/
def decimal (v : Int) : Numeral .decimal v where
  negative := v < 0
  zeros := 0
  body := Nat.toDigits 10 v.natAbs
  signed := by simp
  unsigned := by
    simp
    omega
  digits := by
    have kept : (Nat.toDigits 10 v.natAbs).filter (· ≠ '_') = Nat.toDigits 10 v.natAbs :=
      List.filter_eq_self.mpr fun c member => decide_eq_true (plain_of_mem_toDigits member).1
    have small : (Nat.toDigits 10 v.natAbs).map Char.toLower = Nat.toDigits 10 v.natAbs :=
      (List.map_congr_left fun c member => (plain_of_mem_toDigits member).2).trans (List.map_id' _)
    rw [kept, small]
    rfl
  begins _ head := (plain_of_mem_toDigits (List.mem_of_head? head)).1 rfl

theorem word_toString (v : Int) : Scan.word (toString v) = (decimal v).clusters := by
  cases v with
  | ofNat n =>
    have text : toString (Int.ofNat n) = String.ofList (Nat.toDigits 10 n) :=
      Nat.repr_eq_ofList_toDigits
    rw [text]
    simp [Scan.word, clusters, decimal, sign, Radix.mark]
  | negSucc n =>
    have text : toString (Int.negSucc n) = "-" ++ String.ofList (Nat.toDigits 10 (n + 1)) :=
      congrArg ("-" ++ ·) Nat.repr_eq_ofList_toDigits
    rw [text]
    simp [Scan.word, clusters, decimal, sign, Radix.mark]

theorem text_decimal (v : Int) : (decimal v).text = toString v := by
  rw [text, ← word_toString, Cluster.joinText_word]

end Numeral

theorem Recognizer.fitsInt64_iff {n : Int} :
    fitsInt64 n = true ↔ -0x8000000000000000 ≤ n ∧ n ≤ 0x7fffffffffffffff := by
  simp [fitsInt64]

/-- However an integer is written, it is what is read.  If it does not fit in 64 bits, the text is
reported as it stands. -/
theorem tokenize_numeral {radix : Radix} {v : Int} (numeral : Numeral radix v) :
    (-0x8000000000000000 ≤ v ∧ v ≤ 0x7fffffffffffffff →
      tokenize numeral.text {} true = .ok [.integer v, .endOfInput]) ∧
    (¬ (-0x8000000000000000 ≤ v ∧ v ≤ 0x7fffffffffffffff) →
      ∃ fault, tokenize numeral.text {} true =
          .error (.malformed { fault, location := ⟨1, 1, 0⟩ }) ∧
        fault.kind.code = "LITLEX-L004" ∧
        fault.context = [("literal", .text numeral.text), ("target", .text "64-bit integer")]) := by
  have literal := numeral.literal
  have skips : Skips numeral.clusters 0 0 := .stay (Nat.zero_le _) numeral.solid
  constructor
  · intro small
    rw [if_pos (Recognizer.fitsInt64_iff.mpr small)] at literal
    refine tokenize_word ?_ numeral.legible_text
    rw [numeral.word_text]
    exact literal.finds.tokenizes (by simp) numeral.solid
  · intro large
    rw [if_neg fun small => large (Recognizer.fitsInt64_iff.mp small)] at literal
    refine ⟨.failedConversion numeral.text, tokenize_word ?_ numeral.legible_text, rfl, rfl⟩
    rw [numeral.word_text]
    exact .fails ⟨0, skips, .fault literal (Fault.reported _)⟩

/-- Separators and zeros may be added where one likes, and the greatest integer of 64 bits has a
successor that does not fit. -/
theorem tokenize_numeral_hexadecimal :
    tokenize "-0x_00f_F" {} true = .ok [.integer (-255), .endOfInput] ∧
      ∃ fault, tokenize "0b1000000000000000000000000000000000000000000000000000000000000000" {} true =
          .error (.malformed { fault, location := ⟨1, 1, 0⟩ }) ∧
        fault.kind.code = "LITLEX-L004" := by
  let separated : Numeral .hexadecimal (-255) := {
    negative := true
    zeros := 2
    body := "_00f_F".toList
    signed := by decide
    unsigned := by decide
    digits := by decide +kernel
    begins := by decide }
  let large : Numeral .binary 0x8000000000000000 := {
    negative := false
    zeros := 0
    body := "1000000000000000000000000000000000000000000000000000000000000000".toList
    signed := by decide
    unsigned := by decide
    digits := by decide +kernel
    begins := by decide }
  have hexadecimal : separated.text = "-0x_00f_F" := by decide +kernel
  have binary : large.text =
      "0b1000000000000000000000000000000000000000000000000000000000000000" := by decide +kernel
  have fits := (tokenize_numeral separated).1 (by decide)
  obtain ⟨fault, fails, code, _⟩ := (tokenize_numeral large).2 (by decide)
  rw [hexadecimal] at fits
  rw [binary] at fails
  exact ⟨fits, fault, fails, code⟩

end LiteralLexer
