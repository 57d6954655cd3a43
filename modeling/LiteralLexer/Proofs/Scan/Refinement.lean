import LiteralLexer.Proofs.Reading
import LiteralLexer.Proofs.Scan.Basic

/-!
# Recognizers compute their scans

A recognizer that starts in step with the text ends in step with it, and what it answers is the scan
of the clusters ahead (`Transform.recognizer_reading`).  The one hypothesis is that the text is
*sealed* from there on: each loop then stops at the end of the text at the latest, and no
look-ahead behind the text is taken for a part of a literal.  An inert sentinel seals a text from
every place on; any that the loops stop at does so before the end of the text, but for a `*` behind a
last slash.

Each recognizer has a lemma of its own.  A comparison with a cluster ahead becomes an index into the
list by `Source.ahead_eq_iff`, a test by `Source.ahead_test`, and a loop becomes a `takeWhile` by
`Source.span_reading`.
-/

namespace LiteralLexer

/-- The verdict that a scan stands for, at a place of a text. -/
def Scan.verdict (s : Source) (p : Nat) : Scan → Verdict
  | .decline => .decline (s.reading p)
  | .accept token size => .accept token (s.reading (p + size))
  | .reject fault size => .fault (s.reading p) fault (s.reading (p + size))

/-- From a place on, the sentinel behind the text is not taken for a part of the text. -/
structure Source.Sealed (s : Source) (p : Nat) : Prop where
  terminator : s.sentinel.Terminator
  /-- What begins a literal is asked of the sentinel too where the text has ended. -/
  final : s.rest p = [] → s.sentinel.Inert
  /-- The mark of a block comment is the only one that is looked for behind a slash. -/
  star : s.rest p = [.single '/'] → s.sentinel ≠ .single '*'

namespace Source.Sealed

variable {s : Source} {p : Nat}

theorem of_inert (inert : s.sentinel.Inert) : s.Sealed p where
  terminator := inert.terminator
  final _ := inert
  star _ := inert.separator.ne_mark (by decide)

theorem of_inside (terminator : s.sentinel.Terminator) (inside : p < s.length)
    (star : s.rest p = [.single '/'] → s.sentinel ≠ .single '*') : s.Sealed p where
  terminator := terminator
  final empty := absurd (length_le_of_rest empty) (Nat.not_le_of_lt inside)
  star := star

theorem closing (closed : s.Sealed p) : s.sentinel.Closing := closed.terminator.toClosing

theorem first_eq_iff (closed : s.Sealed p) (mark : Char) (member : mark ∈ Cluster.marks) :
    (s.reading p).current = .single mark ↔ (s.rest p)[0]? = some (.single mark) :=
  Source.first_eq_iff fun empty => (closed.final empty).separator.ne_mark member

theorem second_eq_iff (closed : s.Sealed p) (first : (s.rest p)[0]? = some (.single '/')) :
    (s.reading p).ahead 1 = .single '*' ↔ (s.rest p)[1]? = some (.single '*') := by
  rw [ahead_reading]
  obtain ⟨rest, split⟩ := Scan.exists_cons first
  cases rest with
  | nil => simp [split, closed.star split]
  | cons c rest => simp [split]

end Source.Sealed

namespace Recognizer

variable {s : Source} {p : Nat}

/-! ## Layout -/

theorem whitespace_reading (notWhitespace : s.sentinel.isWhitespace = false) (bound : p ≤ s.length) :
    whitespace (s.reading p) =
      .decline (s.reading (p + ((s.rest p).takeWhile Cluster.isWhitespace).length)) := by
  rw [whitespace, Source.span_reading notWhitespace bound]

theorem endOfInput_reading (bound : p ≤ s.length) :
    endOfInput (s.reading p) = (Scan.endOfInput (s.rest p)).verdict s p := by
  obtain ⟨rfl, empty⟩ | ⟨inside, c, other, split⟩ := s.rest_cases p bound
  · simp [endOfInput, Source.current_reading, empty, Scan.endOfInput, Scan.verdict]
  · simp [endOfInput, Source.current_reading, split, other, Scan.endOfInput, Scan.verdict]

theorem newLine_reading (closed : s.Sealed p) (bound : p ≤ s.length) :
    newLine (s.reading p) = (Scan.newLine (s.rest p)).verdict s p := by
  obtain ⟨rfl, empty⟩ | ⟨inside, c, other, split⟩ := s.rest_cases p bound
  · have quiet := (closed.final empty).notNewline
    simp [newLine, Source.current_reading, empty, quiet, Scan.newLine, Scan.verdict]
  · cases newline : c.isNewline <;>
      simp [newLine, Source.current_reading, split, newline, inside, Scan.newLine, Scan.verdict]

theorem blockBody_closed (fuel : Nat) (body : List Char) (r : Reading) :
    blockBody fuel ('/' :: '*' :: body) r = (some body.reverse, r) := by
  unfold blockBody
  rfl

/-- The loop of a block comment looks for the end of the comment. -/
theorem blockBody_reading {p : Nat} (fuel : Nat) (body : List Char) (bound : p ≤ s.length)
    (enough : s.length ≤ p + fuel) :
    blockBody fuel body (s.reading p) =
      match Scan.blockEnd? body (s.rest p) with
      | some (text, size) => (some text, s.reading (p + size))
      | none => (none, s.reading s.length) := by
  -- both sides look at the characters first and at the text only when these are not closed
  by_cases closed : ∃ text, body = '/' :: '*' :: text
  · obtain ⟨text, rfl⟩ := closed
    rw [blockBody_closed, Scan.blockEnd?_closed]
    rfl
  have opened : ∀ text, body ≠ '/' :: '*' :: text := fun text equal => closed ⟨text, equal⟩
  obtain ⟨rfl, empty⟩ | ⟨inside, c, other, split⟩ := s.rest_cases p bound
  · rw [empty, Scan.blockEnd?_nil opened]
    cases fuel with
    | zero => exact blockBody.eq_2 body _ opened
    | succ fuel =>
      rw [blockBody.eq_3 _ _ _ opened, Source.current_reading, empty]
      simp
  · cases fuel with
    | zero => omega
    | succ fuel =>
      rw [split, Scan.blockEnd?_cons opened, blockBody.eq_3 _ _ _ opened, Source.current_reading,
        split]
      simp only [List.getElem?_cons_zero, Option.getD_some, Source.sentinel_reading, other,
        if_false, Source.next_reading inside]
      rw [blockBody_reading fuel _ (by omega) (by omega)]
      cases Scan.blockEnd? (c.toList.reverse ++ body) (s.rest (p + 1)) with
      | none => rfl
      | some found => simp [Nat.add_comm, Nat.add_left_comm]

theorem comment_reading (closed : s.Sealed p) :
    comment (s.reading p) = (Scan.comment (s.rest p)).verdict s p := by
  simp only [comment, Scan.comment, closed.first_eq_iff '/' (by decide)]
  split
  · next first =>
    have slash := Source.sentinel_ne_of_getElem? first
    simp only [Source.ahead_eq_iff slash, closed.second_eq_iff first]
    split
    · next second =>
      -- nothing but the sentinel ends the loop
      have bound := Source.lt_of_getElem?_rest second
      have size : p + (s.length - p) = s.length := by omega
      rw [Source.advance_reading (by omega),
        Source.span_rest (by simp) (by intro c other; exact decide_eq_true other) (by omega)]
      simp only [Source.length_rest, Source.drop_rest, Scan.verdict, size]
    · split
      · next second =>
        have bound := Source.lt_of_getElem?_rest second
        have fuel : s.length ≤ p + 2 + ((s.reading (p + 2)).cursor.remaining + 1) := by
          simp only [Cursor.remaining, Cursor.length, Source.reading]
          omega
        have size : p + (s.length - p) = s.length := by omega
        rw [Source.advance_reading (by omega), blockBody_reading _ _ (by omega) fuel,
          Source.drop_rest]
        cases Scan.blockEnd? [] (s.rest (p + 2)) with
        | none => simp [Scan.verdict, size]
        | some found => simp [Scan.verdict, Nat.add_assoc]
      · rfl
  · rfl

/-! ## Words -/

/-- Spelling a word is having it as a beginning. -/
theorem spells_reading (word : String) (foreign : ∀ c ∈ word.toList, s.sentinel ≠ .single c) :
    (s.reading p).spells word = decide (Scan.word word <+: s.rest p) := by
  rw [Reading.spells, decide_eq_decide, List.prefix_iff_getElem?, List.ext_getElem_iff]
  simp only [List.length_map, List.length_range, List.getElem_map, List.getElem_range, Scan.word,
    true_and]
  constructor
  · intro spelled i bound
    rw [← Source.ahead_eq_iff (foreign _ (List.getElem_mem bound))]
    exact spelled i bound bound
  · intro begins i bound _
    rw [Source.ahead_eq_iff (foreign _ (List.getElem_mem bound))]
    exact begins i bound

theorem boolean_reading (closing : s.sentinel.Closing) :
    boolean (s.reading p) = (Scan.boolean (s.rest p)).verdict s p := by
  have yes := closing.ne_of_word "true" (by decide)
  have no := closing.ne_of_word "false" (by decide)
  simp only [boolean, Scan.boolean, spells_reading _ yes, spells_reading _ no, decide_eq_true_eq]
  split
  · next begins =>
    have size : 4 ≤ (s.rest p).length := begins.length_le
    rw [Source.length_rest] at size
    rw [Source.advance_reading (by omega)]
    rfl
  · split
    · next begins =>
      have size : 5 ≤ (s.rest p).length := begins.length_le
      rw [Source.length_rest] at size
      rw [Source.advance_reading (by omega)]
      rfl
    · rfl

theorem character_reading (closed : s.Sealed p) :
    character (s.reading p) = (Scan.character (s.rest p)).verdict s p := by
  simp only [character, Scan.character, closed.first_eq_iff '\'' (by decide)]
  split
  · next first =>
    have quote := Source.sentinel_ne_of_getElem? first
    have inside : p < s.length := Source.lt_of_getElem?_rest first
    simp only [Source.next_reading inside, Source.current_eq_iff quote, Source.getElem?_rest]
    split
    · rfl
    · obtain ⟨final, empty⟩ | ⟨within, c, _, content⟩ := s.rest_cases (p + 1) inside
      -- the text ends behind the opening quote, so the second read finds the sentinel again
      · have missing (n : Nat) : (s.rest p)[1 + n]? = none := by
          rw [← Source.getElem?_rest, empty, List.getElem?_nil]
        have stays : (s.reading (p + 1)).next = s.reading (p + 1) := by
          rw [final, Source.next_exhausted]
        have size : min 2 (s.rest p).length = 1 := by
          rw [Source.length_rest]
          omega
        rw [stays, if_neg (by simp [Source.current_eq_iff quote, empty]), if_neg (by simp [missing 1]),
          size, Scan.verdict]
      · simp only [Source.next_reading within, Source.current_eq_iff quote, Source.getElem?_rest]
        split
        · next third =>
          have closed : p + 2 < s.length := Source.lt_of_getElem?_rest third
          have value : (s.reading (p + 1)).current.text =
              Cluster.joinText (((s.rest p).drop 1).take 1) := by
            rw [Source.drop_rest, Source.current_reading, content]
            simp [Cluster.joinText, Cluster.text]
          rw [Source.next_reading closed, value, Scan.verdict]
        · have size : min 2 (s.rest p).length = 2 := by
            rw [Source.length_rest]
            omega
          rw [size, Scan.verdict]
  · rfl

theorem string_reading (closed : s.Sealed p) :
    string (s.reading p) = (Scan.string (s.rest p)).verdict s p := by
  simp only [string, Scan.string, closed.first_eq_iff '"' (by decide)]
  split
  · next first =>
    have quote := Source.sentinel_ne_of_getElem? first
    have inside : p < s.length := Source.lt_of_getElem?_rest first
    obtain ⟨body, rest, cut, _, stops, run⟩ := exists_run (· ≠ .single '"') (s.rest (p + 1))
    have size : s.length - (p + 1) = body.length + rest.length := by
      rw [← Source.length_rest, cut, List.length_append]
    have remaining : s.rest (p + 1 + body.length) = rest := by
      rw [← Source.drop_rest, cut, List.drop_left]
    rw [Source.next_reading inside, Source.span_reading (by simp) (by omega),
      Source.takeWhile_rest_congr (k := (· ≠ .single '"')) (by intro c other; simp [other]),
      Source.drop_rest, run]
    simp only [Source.current_eq_iff quote, remaining, Source.length_rest]
    -- the loop ends at a closing quote, or else at the end of the text
    cases rest with
    | nil =>
      rw [List.length_nil] at size
      have final : p + 1 + body.length = p + (s.length - p) := by omega
      rw [if_neg (by simp), if_neg (by omega), final, Scan.verdict]
    | cons c rest =>
      rw [List.length_cons] at size
      have closing : c = .single '"' := by simpa using stops
      rw [if_pos (by simp [closing]), if_pos (by omega), Source.next_reading (by omega),
        Scan.verdict]
      simp only [Nat.add_assoc]
  · rfl

theorem flag_reading (closed : s.Sealed p) :
    flag (s.reading p) = (Scan.flag (s.rest p)).verdict s p := by
  simp only [flag, Scan.flag, closed.first_eq_iff '-' (by decide),
    Source.ahead_test closed.closing.notLetter, Bool.and_eq_true, decide_eq_true_eq]
  split
  · next begins =>
    have inside : p < s.length := Source.lt_of_getElem?_rest begins.1
    rw [Source.next_reading inside, Source.span_reading closed.closing.notAlphanumeric (by omega),
      Source.drop_rest, Scan.verdict, Nat.add_assoc]
  · rfl

/-! ## Numbers -/

theorem selectedRadix?_reading (closing : s.sentinel.Closing) :
    selectedRadix? (s.reading p) = Scan.selectedRadix? (s.rest p) := by
  have zero : s.sentinel ≠ .single '0' := closing.ne_alphanum '0' (by decide)
  have letter : Radix.ofLetter? s.sentinel = none := by
    simp [Radix.ofLetter?, closing.ne_alphanum 'b' (by decide), closing.ne_alphanum 'o' (by decide),
      closing.ne_alphanum 'x' (by decide)]
  have second : Radix.ofLetter? ((s.reading p).ahead 1) = (s.rest p)[1]?.bind Radix.ofLetter? := by
    rw [Source.ahead_reading]
    cases (s.rest p)[1]? <;> simp [letter]
  simp only [selectedRadix?, Scan.selectedRadix?, Source.current_eq_iff zero, second,
    Source.ahead_test (closing.not_continues _)]

/-- Even a point behind the text begins no fraction, since no digit follows it. -/
theorem atFraction_reading (closing : s.sentinel.Closing) (whole : List Cluster) :
    atFraction whole (s.reading p) = Scan.atFraction whole (s.rest p) := by
  simp only [atFraction, Scan.atFraction, Source.ahead_test closing.notDigit, Source.current_reading]
  cases s.rest p <;> simp

theorem integerVerdict_reading (radix : Radix) (negative : Bool) (run : List Cluster) (n : Nat)
    (bound : p + n ≤ s.length) :
    integerVerdict (s.reading p) radix negative run (s.reading (p + n)) =
      (Scan.integer ((s.rest p).take n) radix negative run).verdict s p := by
  have size : ((s.rest p).take n).length = n := by
    rw [List.length_take, Source.length_rest]
    omega
  simp only [integerVerdict, Scan.integer, Source.textUntil_reading bound, size]
  cases toInteger? radix negative (withoutSeparators run) <;> rfl

theorem numberFrom_reading (closing : s.sentinel.Closing) (negative : Bool) (sign : Nat)
    (bound : p + sign ≤ s.length) :
    numberFrom (s.reading p) negative (s.reading (p + sign)) =
      (Scan.unsigned negative sign (s.rest p)).verdict s p := by
  simp only [numberFrom, Scan.unsigned, selectedRadix?_reading closing, Source.drop_rest]
  cases selected : Scan.selectedRadix? (s.rest (p + sign)) with
  | some radix =>
    -- the cluster behind the mark is one of the text, so the mark can be read over
    obtain ⟨_, _, c, third, _⟩ := Scan.selectedRadix?_eq_some selected
    have inside := Source.lt_of_getElem?_rest third
    obtain ⟨run, rest, cut, _, _, taken⟩ := exists_run radix.continues (s.rest (p + sign + 2))
    have size := congrArg List.length cut
    rw [List.length_append, Source.length_rest] at size
    have opened : (s.reading (p + sign)).advance 2 = s.reading (p + sign + 2) :=
      Source.advance_reading (by omega)
    simp only [opened, Source.span_reading (closing.not_continues radix) inside.le, taken]
    rw [Nat.add_assoc, Nat.add_assoc p, ← Nat.add_assoc sign]
    exact integerVerdict_reading radix negative run (sign + 2 + run.length) (by omega)
  | none =>
    obtain ⟨whole, rest, cut, _, _, taken⟩ :=
      exists_run Radix.decimal.continues (s.rest (p + sign))
    have size := congrArg List.length cut
    rw [List.length_append, Source.length_rest] at size
    simp only [Source.span_reading (closing.not_continues .decimal) bound, taken,
      atFraction_reading closing]
    split
    · next fraction =>
      -- likewise for the point
      obtain ⟨point, _, _⟩ := Scan.atFraction_iff.mp fraction
      have inside : p + sign + whole.length < s.length := Source.lt_of_getElem?_rest (n := 0) point
      rw [Source.next_reading inside,
        Source.span_reading (closing.not_continues .decimal) (by omega)]
      simp only [Scan.verdict, Scan.fractional, Nat.add_assoc]
    · rw [Nat.add_assoc]
      exact integerVerdict_reading .decimal negative whole (sign + whole.length) (by omega)

theorem number_reading (closed : s.Sealed p) (bound : p ≤ s.length) :
    number (s.reading p) = (Scan.number (s.rest p)).verdict s p := by
  have notDigit := closed.closing.notDigit
  simp only [number, Scan.number, closed.first_eq_iff '-' (by decide), decide_eq_true_eq]
  by_cases negative : (s.rest p)[0]? = some (.single '-')
  · have inside : p < s.length := Source.lt_of_getElem?_rest negative
    simp only [negative, if_true, Source.ahead_test notDigit,
      Source.next_reading inside, decide_true]
    split
    · exact numberFrom_reading closed.closing true 1 inside
    · rfl
  · have first : (s.reading p).current.isDigit = (s.rest p)[0]?.any Cluster.isDigit :=
      Source.ahead_test notDigit 0
    simp only [negative, if_false, first, decide_false]
    split
    · exact numberFrom_reading closed.closing false 0 bound
    · rfl

end Recognizer

/-- A transform other than the skipping of blanks computes its scan. -/
theorem Transform.recognizer_reading {s : Source} {p : Nat} (closed : s.Sealed p)
    (bound : p ≤ s.length) {t : Transform} (literal : t ≠ .whitespace) :
    t.recognizer (s.reading p) = (t.scan (s.rest p)).verdict s p := by
  cases t with
  | whitespace => contradiction
  | endOfInput => exact Recognizer.endOfInput_reading bound
  | newLine => exact Recognizer.newLine_reading closed bound
  | comment => exact Recognizer.comment_reading closed
  | boolean => exact Recognizer.boolean_reading closed.closing
  | number => exact Recognizer.number_reading closed bound
  | character => exact Recognizer.character_reading closed
  | string => exact Recognizer.string_reading closed
  | flag => exact Recognizer.flag_reading closed

end LiteralLexer
