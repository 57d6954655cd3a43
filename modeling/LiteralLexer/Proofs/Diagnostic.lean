import Mathlib.Algebra.Group.Int.Defs
import Mathlib.Data.List.TakeWhile
import LiteralLexer.Diagnostic.Basic
import LiteralLexer.Proofs.Digits

/-!
# The message without its place

The full message of a diagnostic shows its place behind the summary, and the place is taken off again by its
looks alone.  `Diagnostic.withoutPlace_eq_self_iff` says what a text must look like to be shortened, so the
summary comes back whenever there is a place, and otherwise just when it does not look as if there was one
(`Diagnostic.detail_recovers_iff`).
-/

namespace LiteralLexer

/-- A run of at least one decimal digit. -/
def IsNumeral (cs : List Char) : Prop := cs ≠ [] ∧ ∀ c ∈ cs, c.isDigit = true

theorem isNumeral_toString (n : Nat) : IsNumeral (toString n).toList := by
  rw [Nat.toString_eq_repr, Nat.repr_eq_ofList_toDigits, String.toList_ofList]
  exact ⟨Nat.toDigits_ne_nil, fun c => Nat.isDigit_of_mem_toDigits (by decide) (by decide)⟩

theorem IsNumeral.reverse {cs : List Char} (numeral : IsNumeral cs) : IsNumeral cs.reverse :=
  ⟨by simp [numeral.1], fun c member => numeral.2 c (List.mem_reverse.mp member)⟩

/-- The text ends in something that looks like a place: ` at `, a number, a colon and a number. -/
def EndsInPlace (text : String) : Prop :=
  ∃ lead line column : List Char, IsNumeral line ∧ IsNumeral column ∧
    text.toList = lead ++ (" at ".toList ++ line ++ ':' :: column)

namespace Diagnostic

/-! ## Taking a place off -/

theorem dropDigits?_append {digits rest : List Char} (numeral : IsNumeral digits)
    (stops : ∀ c, rest.head? = some c → c.isDigit = false) :
    dropDigits? (digits ++ rest) = some rest := by
  have nonempty := List.length_pos_iff.mpr numeral.1
  rw [dropDigits?, (span_isDigit numeral.2 stops).2]
  apply if_pos
  rw [List.length_append]
  omega

theorem exists_of_dropDigits? {cs rest : List Char} (dropped : dropDigits? cs = some rest) :
    ∃ digits, IsNumeral digits ∧ cs = digits ++ rest := by
  simp only [dropDigits?, Option.ite_none_right_eq_some, Option.some.injEq] at dropped
  obtain ⟨shorter, rfl⟩ := dropped
  have split : cs = cs.takeWhile Char.isDigit ++ cs.dropWhile Char.isDigit :=
    List.takeWhile_append_dropWhile.symm
  refine ⟨cs.takeWhile Char.isDigit, ⟨?_, fun c => List.mem_takeWhile_imp⟩, split⟩
  intro none
  rw [none, List.nil_append] at split
  rw [← split] at shorter
  omega

/-- What is taken off the end of a text, read backwards, is a place and nothing else. -/
theorem dropPlace?_eq_some_iff {reversed rest : List Char} :
    dropPlace? reversed = some rest ↔ ∃ line column, IsNumeral line ∧ IsNumeral column ∧
      reversed = column ++ ':' :: (line ++ " ta ".toList ++ rest) := by
  constructor
  · intro dropped
    simp only [dropPlace?, bind, Option.bind_eq_some_iff] at dropped
    obtain ⟨afterColumn, first, dropped⟩ := dropped
    split at dropped
    · next beforeColumn =>
      obtain ⟨afterLine, second, dropped⟩ := Option.bind_eq_some_iff.mp dropped
      split at dropped
      · next found =>
        cases dropped
        obtain ⟨column, isColumn, rfl⟩ := exists_of_dropDigits? first
        obtain ⟨line, isLine, rfl⟩ := exists_of_dropDigits? second
        exact ⟨line, column, isLine, isColumn, by rw [List.append_assoc]; rfl⟩
      · contradiction
    · contradiction
  · rintro ⟨line, column, isLine, isColumn, rfl⟩
    have stops : ∀ c, (':' :: (line ++ " ta ".toList ++ rest)).head? = some c → c.isDigit = false := by
      rintro c ⟨⟩
      rfl
    have stops' : ∀ c, (" ta ".toList ++ rest).head? = some c → c.isDigit = false := by
      rintro c ⟨⟩
      rfl
    rw [dropPlace?, dropDigits?_append isColumn stops]
    simp only [bind, Option.bind]
    rw [List.append_assoc, dropDigits?_append isLine stops']
    rfl

theorem withoutPlace_append {text place : String} {line column : List Char} (isLine : IsNumeral line)
    (isColumn : IsNumeral column) (shown : place.toList = " at ".toList ++ line ++ ':' :: column) :
    withoutPlace (text ++ place) = text := by
  have reversed : (text ++ place).toList.reverse =
      column.reverse ++ ':' :: (line.reverse ++ " ta ".toList ++ text.toList.reverse) := by
    simp [shown]
  have dropped := dropPlace?_eq_some_iff.mpr ⟨_, _, isLine.reverse, isColumn.reverse, reversed⟩
  rw [withoutPlace, dropped]
  simp

/-- A text is shortened just when it ends in a place. -/
theorem withoutPlace_eq_self_iff (text : String) : withoutPlace text = text ↔ ¬ EndsInPlace text := by
  constructor
  · rintro kept ⟨lead, line, column, isLine, isColumn, split⟩
    have rebuilt : text = String.ofList lead ++ String.ofList (" at ".toList ++ line ++ ':' :: column) := by
      rw [← String.ofList_append, ← split, String.ofList_toList]
    have shortened : withoutPlace text = String.ofList lead := by
      rw [rebuilt]
      exact withoutPlace_append isLine isColumn (String.toList_ofList)
    have longer := congrArg List.length split
    rw [← kept, shortened, String.toList_ofList] at longer
    simp at longer
  · intro plain
    cases dropped : dropPlace? text.toList.reverse with
    | none => rw [withoutPlace, dropped]
    | some rest =>
      obtain ⟨line, column, isLine, isColumn, reversed⟩ := dropPlace?_eq_some_iff.mp dropped
      refine absurd ⟨rest.reverse, line.reverse, column.reverse, isLine.reverse,
        isColumn.reverse, ?_⟩ plain
      rw [← List.reverse_reverse text.toList, reversed]
      simp

/-! ## The summary of a diagnostic -/

/-- With a place, the message without its place is the summary. -/
theorem detail_eq {d : Diagnostic} {line column : Nat} {offset : Int}
    (place : d.location = some ⟨line, column, offset⟩) : d.detail = d.summary := by
  rw [detail, message, place]
  apply withoutPlace_append (isNumeral_toString line) (isNumeral_toString column)
  have column' : toString (column : Int) = toString column := rfl
  have line' : toString (line : Int) = toString line := rfl
  simp [placeSuffix, column', line']

theorem detail_eq_iff {d : Diagnostic}
    (natural : ∀ l, d.location = some l → 0 ≤ l.line ∧ 0 ≤ l.column) :
    d.detail = d.summary ↔ d.location.isSome = true ∨ ¬ EndsInPlace d.summary := by
  cases place : d.location with
  | none =>
    rw [detail, message, place, withoutPlace_eq_self_iff]
    simp
  | some l =>
    obtain ⟨line, column, offset⟩ := l
    obtain ⟨below, right⟩ := natural _ place
    obtain ⟨line, rfl⟩ := Int.eq_ofNat_of_zero_le below
    obtain ⟨column, rfl⟩ := Int.eq_ofNat_of_zero_le right
    simp [detail_eq place]

theorem kindOf_code (kind : ErrorKind) : kindOf kind.code = .ok kind := by
  cases kind <;> rfl

/-- How a summary stands in the message of a diagnostic, and when it is recovered from there. -/
structure Worded (d : Diagnostic) (summary : String) (location : Option Location) : Prop where
  message : d.message = summary ++ match location with
    | some l => " at " ++ toString l.line ++ ":" ++ toString l.column
    | none => ""
  detail : d.detail = summary ↔ location.isSome = true ∨ ¬ EndsInPlace summary

theorem worded {d : Diagnostic} (natural : ∀ l, d.location = some l → 0 ≤ l.line ∧ 0 ≤ l.column) :
    Worded d d.summary d.location where
  message := by
    rw [message]
    cases d.location with
    | none => exact String.append_empty.symm
    | some l => rfl
  detail := detail_eq_iff natural

/-- Under each of the five codes, the message of a diagnostic shows the place behind the summary if there is
one, whether the summary is a wording of its own or the template filled in.  The summary is recovered from
the message if there is a place, and without one just when the summary does not look as if it ended in a
place.  The numbers of a place are below 10 ^ 21, so that they are shown by their digits. -/
theorem detail_recovers_iff (kind : ErrorKind) (location : Option Location)
    (natural : ∀ l, location = some l →
      (0 ≤ l.line ∧ l.line < 10 ^ 21) ∧ 0 ≤ l.column ∧ l.column < 10 ^ 21) :
    (∀ summary context, ∃ d, withSummary kind.code summary location context = .ok d ∧
        Worded d summary location) ∧
      ∀ context, ∃ d, create kind.code context location = .ok d ∧
        Worded d (Template.render kind.template context) location := by
  have nonnegative : ∀ l, location = some l → 0 ≤ l.line ∧ 0 ≤ l.column := by
    intro l place
    obtain ⟨⟨below, _⟩, right, _⟩ := natural l place
    exact ⟨below, right⟩
  constructor
  · intro summary context
    exact ⟨⟨kind, summary, location, context⟩, by rw [withSummary, kindOf_code]; rfl,
      worded nonnegative⟩
  · intro context
    exact ⟨ofContext kind context location, by rw [create, kindOf_code]; rfl,
      worded (d := ofContext kind context location) nonnegative⟩

/-- A summary that ends in a place is recovered from in front of another one. -/
theorem detail_recovers_iff_twice :
    (∀ l, some (⟨3, 7, 20⟩ : Location) = some l →
      (0 ≤ l.line ∧ l.line < 10 ^ 21) ∧ 0 ≤ l.column ∧ l.column < 10 ^ 21) ∧
      ∃ d, withSummary "LITLEX-L003" "open at 1:2" (some ⟨3, 7, 20⟩) none = .ok d ∧
        d.message = "open at 1:2 at 3:7" ∧ d.detail = "open at 1:2" := by
  have natural : ∀ l, some (⟨3, 7, 20⟩ : Location) = some l →
      (0 ≤ l.line ∧ l.line < 10 ^ 21) ∧ 0 ≤ l.column ∧ l.column < 10 ^ 21 := by
    rintro _ ⟨⟩
    decide
  obtain ⟨d, made, worded⟩ :=
    (detail_recovers_iff .unterminatedString (some ⟨3, 7, 20⟩) natural).1 "open at 1:2" none
  exact ⟨natural, d, made, worded.message, worded.detail.mpr (.inl rfl)⟩

/-- Without a place, what looks like one at the end of the summary is lost. -/
theorem detail_ne_summary :
    ∃ d, withSummary "LITLEX-L003" "open at 3:4" none none = .ok d ∧ d.summary = "open at 3:4" ∧
      d.detail = "open" ∧ d.detail ≠ d.summary :=
  ⟨⟨.unterminatedString, "open at 3:4", none, none⟩, rfl, rfl, by decide +kernel⟩

end Diagnostic

end LiteralLexer
