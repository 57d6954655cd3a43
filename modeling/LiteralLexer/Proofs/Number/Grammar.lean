import LiteralLexer.Proofs.Lexer.Run
import LiteralLexer.Proofs.Literal.Scan

/-!
# The longest number

`IsNumber` says which runs of clusters are numbers, whatever follows them.  The recognizer of numbers
decides from one cluster to the next whether the number goes on, looks at most two clusters ahead and
never takes a cluster back; and yet what it reads is the longest number that the text begins with
(`Recognizer.number_longest`).

The argument goes from the grammar to the recognizer.  If a number is the longest one, then nothing that
follows it would make it longer: this is what the loop over the digits stops at, and why no radix is
selected and no point taken where the number is shorter than that.
-/

namespace LiteralLexer

/-- The clusters that a number of a radix goes on with, the separator among them. -/
def Radix.alphabet : Radix → List Cluster
  | .binary => Scan.word "01_"
  | .octal => Scan.word "01234567_"
  | .decimal => Scan.word "0123456789_"
  | .hexadecimal => Scan.word "0123456789abcdefABCDEF_"

theorem Radix.mem_alphabet_iff {radix : Radix} {c : Cluster} :
    c ∈ radix.alphabet ↔ radix.continues c = true := by
  constructor
  · have all : ∀ radix : Radix, ∀ c ∈ radix.alphabet, radix.continues c = true := by
      intro radix
      cases radix <;> decide
    exact all radix c
  · intro continues
    -- such a cluster is a character of ASCII, so there are few enough to look at each
    have all : ∀ n < 128, radix.continues (.single (.ofNat n)) = true →
        Cluster.single (.ofNat n) ∈ radix.alphabet := by
      cases radix <;> decide
    obtain ⟨char, rfl⟩ : ∃ char, c = .single char := by
      simp only [Radix.continues, Bool.and_eq_true] at continues
      exact ⟨c.head, Cluster.eq_single_of_tail continues.1⟩
    have ascii : char.toNat < 128 := by
      by_cases separator : char = '_'
      · subst separator
        decide
      · have digit : radix.isDigit char = true := by
          simpa [Radix.continues, Cluster.single, separator] using continues
        have alphanum := Radix.isAlphanum_of_isDigit digit
        rw [Unicode.isAlphanum_iff, Unicode.isAlpha_iff, Unicode.isDigit_iff] at alphanum
        omega
    exact Unicode.forall_code
      (p := fun char => radix.continues (.single char) = true → .single char ∈ radix.alphabet)
      all ascii continues

theorem Radix.continues_of_alphabet {radix : Radix} {run : List Cluster}
    (inside : ∀ c ∈ run, c ∈ radix.alphabet) : ∀ c ∈ run, radix.continues c = true :=
  fun c member => Radix.mem_alphabet_iff.mp (inside c member)

/-- The clusters are a number. -/
inductive IsNumber : List Cluster → Prop where
  /-- `0b`, `0o` or `0x`, and digits and separators, one of them at least. -/
  | prefixed (negative : Bool) {radix : Radix} {run : List Cluster} (other : radix ≠ .decimal)
      (nonempty : run ≠ []) (inside : ∀ c ∈ run, c ∈ radix.alphabet) :
      IsNumber (sign negative ++ (radix.mark ++ run))
  /-- A digit, and digits and separators. -/
  | whole (negative : Bool) {c : Cluster} {run : List Cluster} (digit : c.isDigit = true)
      (inside : ∀ d ∈ run, d ∈ Radix.decimal.alphabet) :
      IsNumber (sign negative ++ (c :: run))
  /-- The same on either side of a point, with no separator before it. -/
  | fraction (negative : Bool) {c d : Cluster} {run more : List Cluster} (digit : c.isDigit = true)
      (inside : ∀ e ∈ run, e ∈ Radix.decimal.alphabet)
      (unseparated : (c :: run).getLast? ≠ some (.single '_')) (follows : d.isDigit = true)
      (within : ∀ e ∈ more, e ∈ Radix.decimal.alphabet) :
      IsNumber (sign negative ++ (c :: run ++ .single '.' :: d :: more))

/-- Of all the numbers that a text begins with, the longest. -/
structure LongestNumber (cs lexeme : List Cluster) : Prop where
  begins : lexeme <+: cs
  spelled : IsNumber lexeme
  longest : ∀ other, other <+: cs → IsNumber other → other.length ≤ lexeme.length

/-- A text that begins with a number has a longest one. -/
theorem IsNumber.exists_longest {cs lexeme : List Cluster} (spelled : IsNumber lexeme)
    (begins : lexeme <+: cs) : ∃ lexeme, LongestNumber cs lexeme := by
  by_cases longest : ∀ other, other <+: cs → IsNumber other → other.length ≤ lexeme.length
  · exact ⟨lexeme, begins, spelled, longest⟩
  · simp only [not_forall, not_le] at longest
    obtain ⟨other, within, number, longer⟩ := longest
    have bound := within.length_le
    exact number.exists_longest within
termination_by cs.length - lexeme.length

/-! ## What the scan says of a number -/

namespace Scan

theorem number_prefixed (negative : Bool) {radix : Radix} {run rest : List Cluster}
    (other : radix ≠ .decimal) (nonempty : run ≠ []) (inside : ∀ c ∈ run, c ∈ radix.alphabet)
    (stops : Stops radix.continues rest) :
    number (sign negative ++ (radix.mark ++ run) ++ rest) =
      integer (sign negative ++ (radix.mark ++ run)) radix negative run := by
  have continues := Radix.continues_of_alphabet inside
  have unsigned := unsigned_prefixed negative (sign negative) other nonempty continues stops
  rw [List.append_assoc, List.append_assoc, ← unsigned]
  obtain ⟨letter, mark, _⟩ := exists_letter other
  rw [mark]
  exact number_sign negative (c := .single '0') (by decide) _

theorem number_whole (negative : Bool) {c : Cluster} {run rest : List Cluster}
    (digit : c.isDigit = true) (inside : ∀ d ∈ run, d ∈ Radix.decimal.alphabet)
    (stops : Stops Radix.decimal.continues rest)
    (plain : ∀ radix, ¬ SelectsRadix (c :: run ++ rest) radix)
    (integral : ¬ TakesPoint (c :: run) rest) :
    number (sign negative ++ (c :: run) ++ rest) =
      integer (sign negative ++ (c :: run)) .decimal negative (c :: run) := by
  have continues := Radix.continues_of_alphabet inside
  rw [List.append_assoc]
  exact (number_sign negative digit _).trans
    (unsigned_whole negative _ digit continues stops plain integral)

theorem number_fraction (negative : Bool) {c d : Cluster} {run more rest : List Cluster}
    (digit : c.isDigit = true) (inside : ∀ e ∈ run, e ∈ Radix.decimal.alphabet)
    (unseparated : (c :: run).getLast? ≠ some (.single '_')) (follows : d.isDigit = true)
    (within : ∀ e ∈ more, e ∈ Radix.decimal.alphabet)
    (stops : Stops Radix.decimal.continues rest) :
    number (sign negative ++ (c :: run ++ .single '.' :: d :: more) ++ rest) =
      .accept (.floatingPoint (fractional negative (c :: run) (d :: more)))
        (sign negative ++ (c :: run ++ .single '.' :: d :: more)).length := by
  have before := Radix.continues_of_alphabet inside
  have behind := Radix.continues_of_alphabet within
  have unsigned := unsigned_fraction negative (sign negative) digit before unseparated follows behind
    stops
  have size : (sign negative ++ (c :: run ++ .single '.' :: d :: more)).length =
      (sign negative).length + (run.length + 1) + 1 + (more.length + 1) := by
    simp only [List.length_append, List.length_cons]
    omega
  rw [size, ← unsigned, List.append_assoc, List.append_assoc]
  exact number_sign negative digit _

theorem integer_cases (lexeme : List Cluster) (radix : Radix) (negative : Bool)
    (run : List Cluster) :
    (∃ token, integer lexeme radix negative run = .accept token lexeme.length) ∨
      integer lexeme radix negative run =
        .reject (.failedConversion (Cluster.joinText lexeme)) lexeme.length := by
  unfold integer
  split
  · exact .inl ⟨_, rfl⟩
  · exact .inr rfl

end Scan

/-! ## The longest number -/

namespace LongestNumber

variable {cs lexeme rest : List Cluster}

/-- Nothing that follows the longest number makes it a longer one. -/
theorem not_extends (longest : LongestNumber (lexeme ++ rest) lexeme) {more : List Cluster}
    (begins : more <+: rest) (nonempty : more ≠ []) : ¬ IsNumber (lexeme ++ more) := by
  intro number
  have bound := longest.longest _ (List.prefix_append_right_inj lexeme |>.mpr begins) number
  have positive := List.length_pos_iff.mpr nonempty
  rw [List.length_append] at bound
  omega

/-- A loop does not go on behind the longest number if what it would read belonged to the number. -/
theorem stops (longest : LongestNumber (lexeme ++ rest) lexeme) {keep : Cluster → Bool}
    (goesOn : ∀ c, keep c = true → IsNumber (lexeme ++ [c])) : Stops keep rest := by
  intro c head
  cases kept : keep c with
  | false => rfl
  | true =>
    obtain ⟨tail, rfl⟩ := List.head?_eq_some_iff.mp head
    exact absurd (goesOn c kept) (longest.not_extends (by simp) (by simp))

theorem stops_prefixed {negative : Bool} {radix : Radix} {run : List Cluster}
    (longest : LongestNumber (sign negative ++ (radix.mark ++ run) ++ rest)
      (sign negative ++ (radix.mark ++ run)))
    (other : radix ≠ .decimal) (inside : ∀ c ∈ run, c ∈ radix.alphabet) :
    Stops radix.continues rest := by
  refine longest.stops fun c continues => ?_
  have further : IsNumber (sign negative ++ (radix.mark ++ (run ++ [c]))) :=
    .prefixed negative other (by simp)
      (List.forall_mem_append.mpr ⟨inside, by simpa using Radix.mem_alphabet_iff.mpr continues⟩)
  simpa using further

theorem stops_whole {negative : Bool} {c : Cluster} {run : List Cluster}
    (longest : LongestNumber (sign negative ++ (c :: run) ++ rest) (sign negative ++ (c :: run)))
    (digit : c.isDigit = true) (inside : ∀ d ∈ run, d ∈ Radix.decimal.alphabet) :
    Stops Radix.decimal.continues rest := by
  refine longest.stops fun d continues => ?_
  have further : IsNumber (sign negative ++ (c :: (run ++ [d]))) :=
    .whole negative digit
      (List.forall_mem_append.mpr ⟨inside, by simpa using Radix.mem_alphabet_iff.mpr continues⟩)
  simpa using further

theorem stops_fraction {negative : Bool} {c d : Cluster} {run more : List Cluster}
    (longest : LongestNumber (sign negative ++ (c :: run ++ .single '.' :: d :: more) ++ rest)
      (sign negative ++ (c :: run ++ .single '.' :: d :: more)))
    (digit : c.isDigit = true) (inside : ∀ e ∈ run, e ∈ Radix.decimal.alphabet)
    (unseparated : (c :: run).getLast? ≠ some (.single '_')) (follows : d.isDigit = true)
    (within : ∀ e ∈ more, e ∈ Radix.decimal.alphabet) : Stops Radix.decimal.continues rest := by
  refine longest.stops fun e continues => ?_
  have further : IsNumber (sign negative ++ (c :: run ++ .single '.' :: d :: (more ++ [e]))) :=
    .fraction negative digit inside unseparated follows
      (List.forall_mem_append.mpr ⟨within, by simpa using Radix.mem_alphabet_iff.mpr continues⟩)
  simpa using further

/-- Where the longest number has no radix mark, none is selected: with the mark it would be longer. -/
theorem plain_whole {negative : Bool} {c : Cluster} {run : List Cluster}
    (longest : LongestNumber (sign negative ++ (c :: run) ++ rest) (sign negative ++ (c :: run)))
    (inside : ∀ d ∈ run, d ∈ Radix.decimal.alphabet) (radix : Radix) :
    ¬ SelectsRadix (c :: run ++ rest) radix := by
  rintro ⟨other, d, tail, continues, split⟩
  obtain ⟨letter, mark, _, foreign⟩ := exists_letter other
  have marked : IsNumber (sign negative ++ (radix.mark ++ [d])) :=
    .prefixed negative other (by simp) (by simpa using Radix.mem_alphabet_iff.mpr continues)
  have begins : sign negative ++ (radix.mark ++ [d]) <+: sign negative ++ (c :: run) ++ rest := by
    rw [List.append_assoc, split]
    exact ⟨tail, by simp⟩
  have shorter := longest.longest _ begins marked
  rw [mark] at split shorter
  -- a second digit would stand where the letter of the mark does
  cases run with
  | nil =>
    simp only [List.length_append, List.length_cons, List.length_nil] at shorter
    omega
  | cons e run =>
    obtain rfl : e = letter := by simp_all
    rw [Radix.mem_alphabet_iff.mp (inside e List.mem_cons_self)] at foreign
    contradiction

/-- Where the longest number has no point, no fraction follows it. -/
theorem integral_whole {negative : Bool} {c : Cluster} {run : List Cluster}
    (longest : LongestNumber (sign negative ++ (c :: run) ++ rest) (sign negative ++ (c :: run)))
    (digit : c.isDigit = true) (inside : ∀ d ∈ run, d ∈ Radix.decimal.alphabet) :
    ¬ TakesPoint (c :: run) rest := by
  rintro ⟨unseparated, d, tail, follows, rfl⟩
  have further : IsNumber (sign negative ++ (c :: run ++ .single '.' :: [d])) :=
    .fraction negative digit inside unseparated follows (by simp)
  have begins : [.single '.', d] <+: .single '.' :: d :: tail := ⟨tail, rfl⟩
  exact longest.not_extends begins (by simp) (by simpa using further)

theorem scan_prefixed {negative : Bool} {radix : Radix} {run : List Cluster}
    (longest : LongestNumber (sign negative ++ (radix.mark ++ run) ++ rest)
      (sign negative ++ (radix.mark ++ run)))
    (other : radix ≠ .decimal) (nonempty : run ≠ []) (inside : ∀ c ∈ run, c ∈ radix.alphabet) :
    Scan.number (sign negative ++ (radix.mark ++ run) ++ rest) =
      .integer (sign negative ++ (radix.mark ++ run)) radix negative run :=
  Scan.number_prefixed negative other nonempty inside (longest.stops_prefixed other inside)

theorem scan_whole {negative : Bool} {c : Cluster} {run : List Cluster}
    (longest : LongestNumber (sign negative ++ (c :: run) ++ rest) (sign negative ++ (c :: run)))
    (digit : c.isDigit = true) (inside : ∀ d ∈ run, d ∈ Radix.decimal.alphabet) :
    Scan.number (sign negative ++ (c :: run) ++ rest) =
      .integer (sign negative ++ (c :: run)) .decimal negative (c :: run) :=
  Scan.number_whole negative digit inside (longest.stops_whole digit inside)
    (longest.plain_whole inside) (longest.integral_whole digit inside)

theorem scan_fraction {negative : Bool} {c d : Cluster} {run more : List Cluster}
    (longest : LongestNumber (sign negative ++ (c :: run ++ .single '.' :: d :: more) ++ rest)
      (sign negative ++ (c :: run ++ .single '.' :: d :: more)))
    (digit : c.isDigit = true) (inside : ∀ e ∈ run, e ∈ Radix.decimal.alphabet)
    (unseparated : (c :: run).getLast? ≠ some (.single '_')) (follows : d.isDigit = true)
    (within : ∀ e ∈ more, e ∈ Radix.decimal.alphabet) :
    Scan.number (sign negative ++ (c :: run ++ .single '.' :: d :: more) ++ rest) =
      .accept (.floatingPoint (Scan.fractional negative (c :: run) (d :: more)))
        (sign negative ++ (c :: run ++ .single '.' :: d :: more)).length :=
  Scan.number_fraction negative digit inside unseparated follows within
    (longest.stops_fraction digit inside unseparated follows within)

/-- The longest number is what is scanned, whatever comes of it. -/
theorem scan_cases (longest : LongestNumber cs lexeme) :
    (∃ token, Scan.number cs = .accept token lexeme.length) ∨
      Scan.number cs = .reject (.failedConversion (Cluster.joinText lexeme)) lexeme.length := by
  obtain ⟨rest, rfl⟩ := longest.begins
  cases longest.spelled with
  | prefixed negative other nonempty inside =>
    rw [longest.scan_prefixed other nonempty inside]
    exact Scan.integer_cases _ _ _ _
  | whole negative digit inside =>
    rw [longest.scan_whole digit inside]
    exact Scan.integer_cases _ _ _ _
  | fraction negative digit inside unseparated follows within =>
    exact .inl ⟨_, longest.scan_fraction digit inside unseparated follows within⟩

end LongestNumber

/-- Nothing is read just where the text begins with no number. -/
theorem Scan.number_eq_decline_iff {cs : List Cluster} :
    number cs = .decline ↔ ∀ lexeme, lexeme <+: cs → ¬ IsNumber lexeme := by
  constructor
  · intro declines lexeme begins spelled
    obtain ⟨lexeme, longest⟩ := spelled.exists_longest begins
    rcases longest.scan_cases with ⟨token, accepted⟩ | rejected
    · simp [accepted] at declines
    · simp [rejected] at declines
  · intro none
    refine Decidable.byContradiction fun scans => ?_
    obtain ⟨negative, c, tail, digit, rfl⟩ := Literal.exists_sign scans
    -- the first digit is a number by itself
    exact none (sign negative ++ [c]) ⟨tail, by simp⟩ (.whole negative digit (by simp))

/-! ## The recognizer -/

namespace Recognizer

/-- The longest number that the clusters from a place on begin with is what is read of them, and a number
that cannot be converted is reported as it stands. -/
theorem number_of_longest {s : Source} {p : Nat} (inert : s.sentinel.Inert) (bound : p ≤ s.length)
    {lexeme : List Cluster} (longest : LongestNumber (s.rest p) lexeme) :
    (∃ token, number (s.reading p) = .accept token (s.reading (p + lexeme.length))) ∨
      number (s.reading p) = .fault (s.reading p) (.failedConversion (Cluster.joinText lexeme))
        (s.reading (p + lexeme.length)) := by
  rw [number_reading (.of_inert inert) bound]
  rcases longest.scan_cases with ⟨token, accepted⟩ | rejected
  · exact .inl ⟨token, by rw [accepted, Scan.verdict]⟩
  · exact .inr (by rw [rejected, Scan.verdict])

theorem number_eq_decline_iff {s : Source} {p : Nat} (inert : s.sentinel.Inert)
    (bound : p ≤ s.length) :
    number (s.reading p) = .decline (s.reading p) ↔
      ∀ lexeme, lexeme <+: s.rest p → ¬ IsNumber lexeme := by
  rw [← Scan.number_eq_decline_iff, number_reading (.of_inert inert) bound]
  cases Scan.number (s.rest p) <;> simp [Scan.verdict, Verdict.fault]

/-- From a reading in step with a text without NUL, the recognizer of numbers declines and moves nothing
just if the clusters from there on begin with no number.  Otherwise it reads the longest number that
they begin with: it ends at the cluster behind that number, or has a fault with its text. -/
theorem number_longest {text : String} (absent : '\x00' ∉ text.toList) :
    ∃ s, Source.ofText text Source.defaultSentinel = .ok s ∧ ∀ p ≤ s.length,
      (number (s.reading p) = .decline (s.reading p) ↔
        ∀ lexeme, lexeme <+: s.rest p → ¬ IsNumber lexeme) ∧
      ((∃ lexeme, lexeme <+: s.rest p ∧ IsNumber lexeme) →
        ∃ lexeme, LongestNumber (s.rest p) lexeme ∧
          ((∃ token, number (s.reading p) = .accept token (s.reading (p + lexeme.length))) ∨
            ∃ fault, number (s.reading p) =
                .fault (s.reading p) fault (s.reading (p + lexeme.length)) ∧
              fault.context.lookup "literal" = some (.text (Cluster.joinText lexeme)))) := by
  have alone := Lexer.ofText?_defaultSentinel
  obtain ⟨s, opened⟩ := Source.exists_ofText alone (Cluster.single_notMem absent)
  have inert : s.sentinel.Inert := (Source.of_ofText alone opened).2 ▸ Cluster.inert_nul
  refine ⟨s, opened, fun p bound => ⟨number_eq_decline_iff inert bound, ?_⟩⟩
  rintro ⟨lexeme, begins, spelled⟩
  obtain ⟨lexeme, longest⟩ := spelled.exists_longest begins
  refine ⟨lexeme, longest, ?_⟩
  rcases number_of_longest inert bound longest with accepted | rejected
  · exact .inl accepted
  · exact .inr ⟨_, rejected, rfl⟩

/-- A radix mark with a digit of the radix behind it is not taken back. -/
theorem number_longest_binary :
    ∃ s, Source.ofText "0b12" Source.defaultSentinel = .ok s ∧
      ∃ lexeme, LongestNumber (s.rest 0) lexeme ∧ 3 ≤ lexeme.length ∧
        number (s.reading 0) ≠ .decline (s.reading 0) := by
  obtain ⟨s, opened, reads⟩ := number_longest (by decide : '\x00' ∉ "0b12".toList)
  obtain ⟨declines, longest⟩ := reads 0 (Nat.zero_le _)
  have clusters : s.rest 0 = Scan.word "0b12" :=
    (Source.of_ofText Lexer.ofText?_defaultSentinel opened).1.trans (by decide +kernel)
  have begins : Scan.word "0b1" <+: s.rest 0 := by
    rw [clusters]
    decide
  have spelled : IsNumber (sign false ++ (Radix.binary.mark ++ Scan.word "1")) :=
    .prefixed false (by decide) (by decide) (by decide)
  obtain ⟨lexeme, longest, _⟩ := longest ⟨_, begins, spelled⟩
  exact ⟨s, opened, lexeme, longest, longest.longest _ begins spelled,
    fun declined => declines.mp declined _ begins spelled⟩

end Recognizer

end LiteralLexer
