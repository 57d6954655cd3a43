import LiteralLexer.Recognizer.Number

/-!
# Separators and inert clusters

A sentinel stands behind the text and is read by every loop that reads on, so it must not be taken
for a part of a literal.  An *inert* cluster is one that no transform starts, continues or ends a
literal with.  Everything that a proof needs to know about a sentinel follows from that: it is no
digit, no letter, no digit of any radix, and none of the characters that the grammar mentions.

Most of this holds of blanks and newlines as well, which stand between literals: a *separator* is a
cluster that goes on with no literal.  The loops stop at even more clusters, quotes and slashes among
them: a *closing* cluster is one that is neither alphanumeric nor a `_`.
-/

namespace LiteralLexer

/-! ## Classes of code points -/

namespace Unicode

/-- What holds of every code up to a bound holds of the characters with such a code. -/
theorem forall_code {p : Char → Prop} {bound : Nat} (all : ∀ n < bound, p (.ofNat n)) {c : Char}
    (small : c.toNat < bound) : p c := by
  have holds := all c.toNat small
  rwa [Char.ofNat_toNat] at holds

theorem isAlpha_iff {c : Char} : c.isAlpha = true ↔
    (65 ≤ c.toNat ∧ c.toNat ≤ 90) ∨ (97 ≤ c.toNat ∧ c.toNat ≤ 122) :=
  Bool.or_eq_true_iff.trans <| or_congr decide_eq_true_iff <|
    Bool.and_eq_true_iff.trans (and_congr decide_eq_true_iff decide_eq_true_iff)

theorem isDigit_iff {c : Char} : c.isDigit = true ↔ 48 ≤ c.toNat ∧ c.toNat ≤ 57 :=
  Bool.and_eq_true_iff.trans (and_congr decide_eq_true_iff decide_eq_true_iff)

theorem isAlphanum_iff {c : Char} : c.isAlphanum = true ↔ c.isAlpha = true ∨ c.isDigit = true :=
  Bool.or_eq_true_iff

theorem isAlphanumeric_of_isLetter {c : Char} (letter : isLetter c = true) :
    isAlphanumeric c = true := by
  unfold isLetter at letter
  unfold isAlphanumeric
  split at letter
  · next ascii =>
    rw [if_pos ascii]
    exact isAlphanum_iff.mpr (.inl letter)
  · next wide => simp [wide, letter]

theorem isAlphanumeric_of_isAlphanum {c : Char} (alphanum : c.isAlphanum = true) :
    isAlphanumeric c = true := by
  have range := isAlphanum_iff.mp alphanum
  rw [isAlpha_iff, isDigit_iff] at range
  have ascii : c.toNat < 0x80 := by omega
  rw [isAlphanumeric, if_pos ascii, alphanum]

end Unicode

theorem Radix.isAlphanum_of_isDigit {radix : Radix} {c : Char} (digit : radix.isDigit c = true) :
    c.isAlphanum = true := by
  rw [Unicode.isAlphanum_iff, Unicode.isAlpha_iff]
  simp only [Radix.isDigit, Radix.digitValue?] at digit
  split at digit
  · next decimal => exact .inr decimal
  · split at digit
    · next lower =>
      have upTo : c ≤ 'z' := Char.le_trans lower.2 (by decide)
      exact .inl (.inr ⟨lower.1, upTo⟩)
    · split at digit
      · next upper =>
        have upTo : c ≤ 'Z' := Char.le_trans upper.2 (by decide)
        exact .inl (.inl ⟨upper.1, upTo⟩)
      · simp at digit

/-! ## Classes of clusters -/

namespace Cluster

@[simp] theorem single_inj {c d : Char} : single c = single d ↔ c = d := by
  simp [single]

@[simp] theorem joinText_singleton (c : Cluster) : joinText [c] = c.text := by
  simp [joinText, text]

theorem eq_single_of_toList {c : Cluster} {char : Char} (alone : c.toList = [char]) :
    c = single char := by
  obtain ⟨head, tail⟩ := c
  cases alone
  rfl

theorem eq_single_of_tail {c : Cluster} (alone : c.tail.isEmpty = true) : c = single c.head := by
  obtain ⟨head, tail⟩ := c
  simpa [single] using alone

theorem isAlphanumeric_of_isLetter {c : Cluster} (letter : c.isLetter = true) :
    c.isAlphanumeric = true := by
  simp only [isLetter, List.any_eq_true] at letter
  obtain ⟨char, member, letter⟩ := letter
  simp only [isAlphanumeric, List.any_eq_true]
  exact ⟨char, member, Unicode.isAlphanumeric_of_isLetter letter⟩

theorem isAlphanumeric_of_head {c : Cluster} (alphanum : c.head.isAlphanum = true) :
    c.isAlphanumeric = true := by
  simp [isAlphanumeric, toList, Unicode.isAlphanumeric_of_isAlphanum alphanum]

theorem isLetter_of_isAlpha {c : Char} (alpha : c.isAlpha = true) : (single c).isLetter = true := by
  have range := Unicode.isAlpha_iff.mp alpha
  have ascii : c.toNat < 0x80 := by omega
  simp [isLetter, Unicode.isLetter, ascii, alpha]

theorem ne_single_of_isDigit {c : Cluster} (digit : c.isDigit = true) {char : Char}
    (other : char.isDigit = false) : c ≠ single char := by
  rintro rfl
  simp [isDigit, single, other] at digit

/-- A digit is a character of ASCII and belongs to no other class but the alphanumeric one. -/
theorem class_of_isDigit {c : Cluster} (digit : c.isDigit = true) :
    c.isNewline = false ∧ c.isLetter = false := by
  simp only [isDigit, Bool.and_eq_true] at digit
  rw [eq_single_of_tail digit.1]
  have range := Unicode.isDigit_iff.mp digit.2
  constructor
  · simp only [isNewline, Unicode.isNewline, toList_single, List.any_cons, List.any_nil,
      Bool.or_false, Bool.or_eq_false_iff, Bool.and_eq_false_iff, decide_eq_false_iff_not]
    omega
  · have ascii : c.head.toNat < 0x80 := by omega
    have notAlpha : ¬ c.head.isAlpha = true := by
      rw [Unicode.isAlpha_iff]
      omega
    simp [isLetter, Unicode.isLetter, ascii, notAlpha]

/-- The characters, letters and digits apart, that begin, join or end a literal. -/
def marks : List Char := ['/', '*', '\'', '"', '-', '.', '_']

/-- A cluster that goes on with no word, number or flag. -/
structure Closing (c : Cluster) : Prop where
  notAlphanumeric : c.isAlphanumeric = false
  notUnderscore : c ≠ single '_'

namespace Closing

variable {c : Cluster}

theorem ne_alphanum (closing : Closing c) (char : Char) (alphanum : char.isAlphanum = true) :
    c ≠ single char := by
  rintro rfl
  have clash := isAlphanumeric_of_head (c := single char) alphanum
  rw [closing.notAlphanumeric] at clash
  contradiction

theorem ne_of_word (closing : Closing c) (word : String)
    (alphanum : word.toList.all Char.isAlphanum = true) : ∀ char ∈ word.toList, c ≠ single char := by
  intro char member
  exact closing.ne_alphanum char (List.all_eq_true.mp alphanum char member)

theorem notLetter (closing : Closing c) : c.isLetter = false := by
  cases letter : c.isLetter with
  | false => rfl
  | true => rw [← closing.notAlphanumeric, isAlphanumeric_of_isLetter letter]

theorem not_head (closing : Closing c) : c.head.isAlphanum = false := by
  cases alphanum : c.head.isAlphanum with
  | false => rfl
  | true => rw [← closing.notAlphanumeric, isAlphanumeric_of_head alphanum]

theorem notDigit (closing : Closing c) : c.isDigit = false := by
  cases digit : c.isDigit with
  | false => rfl
  | true =>
    simp only [isDigit, Bool.and_eq_true] at digit
    have alphanum := Unicode.isAlphanum_iff.mpr (.inr digit.2)
    rw [closing.not_head] at alphanum
    contradiction

theorem not_continues (closing : Closing c) (radix : Radix) : radix.continues c = false := by
  cases continues : radix.continues c with
  | false => rfl
  | true =>
    simp only [Radix.continues, Bool.and_eq_true, Bool.or_eq_true, decide_eq_true_eq] at continues
    obtain ⟨alone, underscore | digit⟩ := continues
    · exact absurd (underscore ▸ eq_single_of_tail alone) closing.notUnderscore
    · have alphanum := Radix.isAlphanum_of_isDigit digit
      rw [closing.not_head] at alphanum
      contradiction

end Closing

/-- A cluster that belongs to no literal but the delimited ones, so that every other literal ends
before it. -/
structure Separator (c : Cluster) : Prop where
  notAlphanumeric : c.isAlphanumeric = false
  notMark : c ∉ marks.map single

namespace Separator

variable {c : Cluster}

theorem ne_mark (separator : Separator c) {mark : Char} (member : mark ∈ marks) :
    c ≠ single mark := by
  rintro rfl
  exact separator.notMark (List.mem_map_of_mem member)

theorem closing (separator : Separator c) : Closing c where
  notAlphanumeric := separator.notAlphanumeric
  notUnderscore := separator.ne_mark (by decide)

end Separator

/-- A cluster that every loop stops at: no blank, and nothing that goes on with a literal. -/
structure Terminator (c : Cluster) : Prop extends Closing c where
  notWhitespace : c.isWhitespace = false

instance (c : Cluster) : Decidable (Terminator c) :=
  decidable_of_iff ((c.isAlphanumeric = false ∧ c ≠ single '_') ∧ c.isWhitespace = false)
    ⟨fun parts => ⟨⟨parts.1.1, parts.1.2⟩, parts.2⟩, fun terminator =>
      ⟨⟨terminator.notAlphanumeric, terminator.notUnderscore⟩, terminator.notWhitespace⟩⟩

/-- A cluster that is no part of any literal and no blank. -/
structure Inert (c : Cluster) : Prop where
  notWhitespace : c.isWhitespace = false
  notNewline : c.isNewline = false
  notAlphanumeric : c.isAlphanumeric = false
  notMark : c ∉ marks.map single

theorem Inert.separator {c : Cluster} (inert : Inert c) : Separator c where
  notAlphanumeric := inert.notAlphanumeric
  notMark := inert.notMark

theorem Inert.terminator {c : Cluster} (inert : Inert c) : Terminator c where
  toClosing := inert.separator.closing
  notWhitespace := inert.notWhitespace

/-- The sentinel of a text unless asked otherwise is inert. -/
theorem inert_nul : Inert (single '\x00') where
  notWhitespace := by decide
  notNewline := by decide
  notAlphanumeric := by decide
  notMark := by decide

end Cluster

end LiteralLexer
