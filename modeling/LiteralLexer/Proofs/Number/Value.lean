import LiteralLexer.Proofs.Lexer.Numeral
import LiteralLexer.Proofs.Number.Conversion

/-!
# What a number stands for

The sign of a number, its radix and its digits can be read off its clusters alone: `Lexeme.value` is the
positional value of the digits in the radix, times the sign.  `Recognizer.number_converts` says of every
lexeme that the recognizer of numbers reads over what is made of it.  Without a point it is the integer of
that value, unless there are no digits or 64 bits are too few.  With a point, digits stand on either side of
it, so that the text which is converted is written as a number.

None of the checks of the conversions (`Radix.parse?`, `Binary64.ofNumeral`) ever fails.
-/

namespace LiteralLexer

/-- The radix whose mark the clusters of an unsigned number begin with, or ten. -/
def Radix.ofMark (cs : List Cluster) : Radix :=
  ([.binary, .octal, .hexadecimal].find? fun radix : Radix => radix.mark <+: cs).getD .decimal

namespace Lexeme

section Parts

variable (lexeme : List Cluster)

def isNegative : Bool := lexeme.head? = some (.single '-')

def unsigned : List Cluster := if isNegative lexeme then lexeme.tail else lexeme

def radix : Radix := .ofMark (unsigned lexeme)

/-- What stands behind the sign and the radix mark, without the separators. -/
def digits : List Char :=
  (Cluster.join ((unsigned lexeme).drop (radix lexeme).mark.length)).filter (· ≠ '_')

/-- The text that is converted. -/
def text : List Char := Cluster.join (sign (isNegative lexeme)) ++ digits lexeme

/-- The positional value of the digits, times the sign. -/
def value : Int :=
  (if isNegative lexeme then -1 else 1) *
    Nat.ofDigits (radix lexeme).base
      ((digits lexeme).reverse.map fun c => (Radix.digitValue? c).getD 0)

/-- There are digits, and 64 bits are enough for the value. -/
def Convertible : Prop :=
  digits lexeme ≠ [] ∧ -2 ^ 63 ≤ value lexeme ∧ value lexeme ≤ 2 ^ 63 - 1

/-- The integer that is made of the parts of the lexeme. -/
def integer? : Option Int := Recognizer.toInteger? (radix lexeme) (isNegative lexeme) (digits lexeme)

theorem signed_eq_value :
    (if isNegative lexeme then -((radix lexeme).value (digits lexeme) : Int)
      else (radix lexeme).value (digits lexeme)) = value lexeme := by
  rw [value, ← Radix.value_eq_ofDigits]
  split <;> omega

end Parts

/-! ## The parts of a number -/

section Parts

variable {negative : Bool} {body : List Cluster}

theorem isNegative_sign (unsigned : body.head? ≠ some (.single '-')) :
    isNegative (sign negative ++ body) = negative := by
  cases negative <;> simp [isNegative, sign, unsigned]

theorem unsigned_sign (plain : body.head? ≠ some (.single '-')) :
    unsigned (sign negative ++ body) = body := by
  rw [unsigned, isNegative_sign plain]
  cases negative <;> simp [sign]

theorem radix_sign (plain : body.head? ≠ some (.single '-')) :
    radix (sign negative ++ body) = .ofMark body := by
  rw [radix, unsigned_sign plain]

end Parts

end Lexeme

theorem Radix.ofMark_mark {radix : Radix} (other : radix ≠ .decimal) (run : List Cluster) :
    ofMark (radix.mark ++ run) = radix := by
  cases radix with
  | decimal => contradiction
  | binary | octal | hexadecimal => simp [ofMark, mark, Scan.word, List.find?]

/-- Without the letter of a mark behind the first cluster the radix is ten. -/
theorem Radix.ofMark_eq_decimal {c : Cluster} {cs : List Cluster}
    (plain : ∀ d, cs.head? = some d → Radix.decimal.continues d = true ∨ d = .single '.') :
    ofMark (c :: cs) = .decimal := by
  have unmarked : ∀ radix : Radix, radix ≠ .decimal → ¬ radix.mark <+: c :: cs := by
    intro radix other marked
    obtain ⟨letter, mark, chosen, foreign⟩ := exists_letter other
    rw [mark] at marked
    obtain ⟨rest, split⟩ := marked
    simp only [List.cons_append, List.nil_append, List.cons.injEq] at split
    rcases plain letter (by simp [← split.2]) with continues | point
    · rw [continues] at foreign
      contradiction
    · rw [point] at chosen
      simp [ofLetter?] at chosen
  have none : ([.binary, .octal, .hexadecimal].find? fun radix : Radix =>
      decide (radix.mark <+: c :: cs)) = none := by
    simp [unmarked]
  rw [ofMark, none, Option.getD_none]

/-- Clusters that continue a number are characters, so they lose nothing when their text is taken. -/
theorem Recognizer.withoutSeparators_eq_filter {radix : Radix} {run : List Cluster}
    (inside : ∀ c ∈ run, radix.continues c = true) :
    withoutSeparators run = (Cluster.join run).filter (· ≠ '_') := by
  have heads : run.map Cluster.head = Cluster.join run := by
    induction run with
    | nil => rfl
    | cons c run ih =>
      obtain ⟨first, others⟩ := List.forall_mem_cons.mp inside
      simp only [Radix.continues, Bool.and_eq_true] at first
      rw [Cluster.eq_single_of_tail first.1, List.map_cons, Cluster.join_cons, ih others]
      rfl
  rw [withoutSeparators, heads]

theorem Recognizer.isDigit_of_mem_withoutSeparators {radix : Radix} {run : List Cluster}
    (inside : ∀ c ∈ run, radix.continues c = true) {char : Char}
    (member : char ∈ withoutSeparators run) : radix.isDigit char = true := by
  obtain ⟨within, other⟩ := List.mem_filter.mp member
  obtain ⟨c, read, rfl⟩ := List.mem_map.mp within
  have continues := inside c read
  have other : c.head ≠ '_' := of_decide_eq_true other
  simpa [Radix.continues, other] using And.right ((Bool.and_eq_true _ _).mp continues)

namespace Lexeme

section Parts

variable {negative : Bool} {radix : Radix} {run : List Cluster}
  (begins : (radix.mark ++ run)[0]?.any Cluster.isDigit = true)
  (inside : ∀ c ∈ run, radix.continues c = true)

include begins in
theorem unsigned_integer : (radix.mark ++ run).head? ≠ some (.single '-') := by
  intro head
  rw [← List.head?_eq_getElem?, head] at begins
  contradiction

include begins inside

theorem radix_integer : Lexeme.radix (sign negative ++ (radix.mark ++ run)) = radix := by
  rw [radix_sign (unsigned_integer begins)]
  by_cases decimal : radix = .decimal
  · subst decimal
    cases run with
    | nil => contradiction
    | cons c run =>
      refine Radix.ofMark_eq_decimal fun d head => .inl ?_
      exact inside d (List.mem_cons_of_mem _ (List.mem_of_head? head))
  · exact Radix.ofMark_mark decimal run

theorem digits_integer :
    digits (sign negative ++ (radix.mark ++ run)) = Recognizer.withoutSeparators run := by
  rw [digits, unsigned_sign (unsigned_integer begins), radix_integer begins inside, List.drop_left,
    Recognizer.withoutSeparators_eq_filter inside]

theorem integer?_integer :
    integer? (sign negative ++ (radix.mark ++ run)) =
      Recognizer.toInteger? radix negative (Recognizer.withoutSeparators run) := by
  rw [integer?, isNegative_sign (unsigned_integer begins), radix_integer begins inside,
    digits_integer begins inside]

end Parts

/-- The integer of a lexeme is its value. -/
theorem integer?_of_convertible {lexeme : List Cluster} (convertible : Convertible lexeme) :
    integer? lexeme = some (value lexeme) := by
  have fits := Recognizer.fitsInt64_iff.mpr convertible.2
  simp only [integer?, Recognizer.toInteger?, List.isEmpty_iff, convertible.1, if_false,
    signed_eq_value, fits, if_true]

theorem integer?_of_not_convertible {lexeme : List Cluster} (failing : ¬ Convertible lexeme) :
    integer? lexeme = none := by
  simp only [integer?, Recognizer.toInteger?, List.isEmpty_iff, signed_eq_value]
  split
  · rfl
  · next digits => exact if_neg fun fits => failing ⟨digits, Recognizer.fitsInt64_iff.mp fits⟩

theorem point_notMem {negative : Bool} {radix : Radix} {run : List Cluster}
    (inside : ∀ c ∈ run, radix.continues c = true) :
    Cluster.single '.' ∉ sign negative ++ (radix.mark ++ run) := by
  have notSign : Cluster.single '.' ∉ sign negative := by
    cases negative <;> decide
  have notMark : Cluster.single '.' ∉ radix.mark := by
    cases radix <;> decide
  have foreign : radix.continues (.single '.') = false := by
    cases radix <;> decide
  have notRun : Cluster.single '.' ∉ run := by
    intro member
    rw [inside _ member] at foreign
    contradiction
  simp [notSign, notMark, notRun]

section Fraction

variable {negative : Bool} {c d : Cluster} {run more : List Cluster} (digit : c.isDigit = true)
  (inside : ∀ e ∈ c :: run, Radix.decimal.continues e = true)
  (within : ∀ e ∈ d :: more, Radix.decimal.continues e = true)

include digit in
theorem unsigned_fraction (tail : List Cluster) :
    (c :: run ++ tail).head? ≠ some (.single '-') := by
  intro head
  exact Cluster.ne_single_of_isDigit digit (by decide) (Option.some.inj head)

include digit inside within

/-- The text of a fraction is converted as it stands, separators apart. -/
theorem text_fraction :
    text (sign negative ++ (c :: run ++ .single '.' :: d :: more)) =
      Cluster.join (sign negative) ++ (Recognizer.withoutSeparators (c :: run) ++
        '.' :: Recognizer.withoutSeparators (d :: more)) := by
  have plain : (c :: run ++ .single '.' :: d :: more).head? ≠ some (.single '-') :=
    unsigned_fraction digit _
  have decimal : Lexeme.radix (sign negative ++ (c :: run ++ .single '.' :: d :: more)) =
      .decimal := by
    rw [radix_sign plain, List.cons_append]
    refine Radix.ofMark_eq_decimal fun e head => ?_
    cases run with
    | nil => exact .inr (Option.some.inj head).symm
    | cons f run =>
      cases head
      exact .inl (inside e (by simp))
  rw [text, isNegative_sign plain, digits, decimal, unsigned_sign plain,
    Recognizer.withoutSeparators_eq_filter inside, Recognizer.withoutSeparators_eq_filter within]
  simp [Radix.mark, Cluster.toList_single]

end Fraction

end Lexeme

/-- A digit is kept when the separators are left out. -/
theorem Recognizer.withoutSeparators_ne_nil {c : Cluster} (digit : c.isDigit = true)
    (run : List Cluster) : withoutSeparators (c :: run) ≠ [] := by
  simp only [Cluster.isDigit, Bool.and_eq_true] at digit
  have other : c.head ≠ '_' := by
    intro separator
    rw [separator] at digit
    exact absurd digit.2 (by decide)
  simp [withoutSeparators, other]

/-- Where nothing is kept, there is nothing but separators. -/
theorem Recognizer.eq_replicate_of_withoutSeparators {radix : Radix} {run : List Cluster}
    (inside : ∀ c ∈ run, radix.continues c = true) (empty : withoutSeparators run = []) :
    run = List.replicate run.length (.single '_') := by
  refine List.eq_replicate_iff.mpr ⟨rfl, fun c member => ?_⟩
  have left := List.filter_eq_nil_iff.mp empty c.head (List.mem_map_of_mem member)
  have head : c.head = '_' := by simpa using left
  have continues := inside c member
  simp only [Radix.continues, Bool.and_eq_true] at continues
  rw [Cluster.eq_single_of_tail continues.1, head]

/-! ## What is made of a lexeme -/

/-- The reading behind what was read, if anything was. -/
def Verdict.behind? : Verdict → Option Reading
  | .decline _ => none
  | .accept _ rest | .reject _ rest => some rest

namespace Recognizer

/-- The clusters that the recognizer of numbers reads over from a place on. -/
structure ScansNumber (s : Source) (p : Nat) (lexeme : List Cluster) : Prop where
  begins : lexeme <+: s.rest p
  ends : (number (s.reading p)).behind? = some (s.reading (p + lexeme.length))

/-- What is made of a lexeme without a point. -/
structure ConvertsInteger (s : Source) (p : Nat) (lexeme : List Cluster) : Prop where
  /-- Every character that is taken for a digit is one. -/
  checked : (Lexeme.radix lexeme).parse? (Lexeme.text lexeme) = some (Lexeme.integer? lexeme)
  accepts : Lexeme.Convertible lexeme →
    number (s.reading p) =
      .accept (.integer (Lexeme.value lexeme)) (s.reading (p + lexeme.length))
  rejects : ¬ Lexeme.Convertible lexeme →
    ∃ fault, number (s.reading p) =
        .reject (.malformed { fault, location := s.locationAt p })
          (s.reading (p + lexeme.length)) ∧
      fault.kind.code = "LITLEX-L004" ∧
      fault.context =
        [("literal", .text (Cluster.joinText lexeme)), ("target", .text "64-bit integer")]
  /-- There are no digits only where nothing but separators stands behind the mark of a radix. -/
  empty : Lexeme.digits lexeme = [] → Lexeme.radix lexeme ≠ .decimal ∧
    ∃ n, Lexeme.unsigned lexeme =
      (Lexeme.radix lexeme).mark ++ List.replicate (n + 1) (.single '_')

/-- What is made of a lexeme with a point. -/
structure ConvertsFraction (s : Source) (p : Nat) (lexeme : List Cluster) : Prop where
  written : ∃ whole fraction, whole ≠ [] ∧ fraction ≠ [] ∧
    (∀ c ∈ whole ++ fraction, c.isDigit = true) ∧
    Lexeme.text lexeme =
      Cluster.join (sign (Lexeme.isNegative lexeme)) ++ (whole ++ '.' :: fraction)
  converts : Binary64.ofNumeral (Lexeme.text lexeme) ≠ .nan
  accepts : number (s.reading p) =
    .accept (.floatingPoint (.ofNumeral (Lexeme.text lexeme))) (s.reading (p + lexeme.length))

variable {s : Source} {p : Nat} {lexeme : List Cluster}

/-- What is read over is the longest number. -/
theorem ScansNumber.longest (inert : s.sentinel.Inert) (bound : p ≤ s.length)
    (scans : ScansNumber s p lexeme) : LongestNumber (s.rest p) lexeme := by
  have begins : ∃ lexeme, lexeme <+: s.rest p ∧ IsNumber lexeme := by
    refine Classical.byContradiction fun none => ?_
    have declines := (number_eq_decline_iff inert bound).mpr fun lexeme begins spelled =>
      none ⟨lexeme, begins, spelled⟩
    have ends := scans.ends
    rw [declines] at ends
    contradiction
  obtain ⟨number, begins, spelled⟩ := begins
  obtain ⟨number, longest⟩ := spelled.exists_longest begins
  -- both end at the same place
  have ends : some (s.reading (p + number.length)) = some (s.reading (p + lexeme.length)) := by
    rw [← scans.ends]
    rcases number_of_longest inert bound longest with ⟨token, accepted⟩ | rejected
    · rw [accepted, Verdict.behind?]
    · rw [rejected, Verdict.fault, Verdict.behind?]
  have place := congrArg (·.cursor.position) (Option.some.inj ends)
  have length : number.length = lexeme.length := by
    simp only [Source.reading] at place
    omega
  have same : number = lexeme :=
    (List.prefix_of_prefix_length_le longest.begins scans.begins length.le).eq_of_length length
  exact same ▸ longest

/-- A sign, a radix mark and digits of the radix are converted to an integer. -/
theorem ConvertsInteger.of_scan {negative : Bool} {radix : Radix} {run : List Cluster}
    (inert : s.sentinel.Inert) (bound : p ≤ s.length)
    (begins : (radix.mark ++ run)[0]?.any Cluster.isDigit = true)
    (inside : ∀ c ∈ run, radix.continues c = true)
    (nonempty : run ≠ [])
    (scan : Scan.number (s.rest p) =
      .integer (sign negative ++ (radix.mark ++ run)) radix negative run) :
    ConvertsInteger s p (sign negative ++ (radix.mark ++ run)) := by
  have number := number_reading (.of_inert inert) bound
  rw [scan, Scan.integer, ← Lexeme.integer?_integer begins inside] at number
  have digits : Lexeme.digits (sign negative ++ (radix.mark ++ run)) = withoutSeparators run :=
    Lexeme.digits_integer begins inside
  have plain := Lexeme.unsigned_integer begins
  constructor
  case checked =>
    have all : ∀ c ∈ withoutSeparators run, radix.isDigit c = true :=
      fun c member => isDigit_of_mem_withoutSeparators inside member
    rw [Lexeme.integer?_integer begins inside, Lexeme.radix_integer begins inside, Lexeme.text,
      Lexeme.isNegative_sign plain, digits, Radix.parse?_eq negative all]
  case accepts =>
    intro convertible
    rw [number, Lexeme.integer?_of_convertible convertible]
    rfl
  case rejects =>
    intro failing
    refine ⟨.failedConversion _, ?_, rfl, rfl⟩
    rw [number, Lexeme.integer?_of_not_convertible failing]
    simp only [Scan.verdict, Verdict.fault, Source.location_reading]
  case empty =>
    intro empty
    rw [digits] at empty
    rw [Lexeme.radix_integer begins inside, Lexeme.unsigned_sign plain]
    constructor
    · rintro rfl
      cases run with
      | nil => contradiction
      | cons c run => exact withoutSeparators_ne_nil begins run empty
    · obtain ⟨n, length⟩ := Nat.exists_eq_add_one.mpr (List.length_pos_iff.mpr nonempty)
      exact ⟨n, by rw [← length, ← eq_replicate_of_withoutSeparators inside empty]⟩

/-- Digits on either side of a point are converted to a floating-point number. -/
theorem ConvertsFraction.of_scan {negative : Bool} {c d : Cluster} {run more : List Cluster}
    (inert : s.sentinel.Inert) (bound : p ≤ s.length) (digit : c.isDigit = true)
    (inside : ∀ e ∈ c :: run, Radix.decimal.continues e = true) (follows : d.isDigit = true)
    (within : ∀ e ∈ d :: more, Radix.decimal.continues e = true)
    (scan : Scan.number (s.rest p) =
      .accept (.floatingPoint (Scan.fractional negative (c :: run) (d :: more)))
        (sign negative ++ (c :: run ++ .single '.' :: d :: more)).length) :
    ConvertsFraction s p (sign negative ++ (c :: run ++ .single '.' :: d :: more)) := by
  have number := number_reading (.of_inert inert) bound
  rw [scan, Scan.verdict] at number
  have before := withoutSeparators_ne_nil digit run
  have behind := withoutSeparators_ne_nil follows more
  have whole : ∀ e ∈ withoutSeparators (c :: run), e.isDigit = true := fun e member =>
    Radix.isDigit_of_decimal (isDigit_of_mem_withoutSeparators inside member)
  have fraction : ∀ e ∈ withoutSeparators (d :: more), e.isDigit = true := fun e member =>
    Radix.isDigit_of_decimal (isDigit_of_mem_withoutSeparators within member)
  have text : Lexeme.text (sign negative ++ (c :: run ++ .single '.' :: d :: more)) = _ :=
    Lexeme.text_fraction digit inside within
  have converted := Binary64.ofNumeral_point before behind whole fraction negative
  rw [← text] at converted
  constructor
  case written =>
    rw [text, Lexeme.isNegative_sign (Lexeme.unsigned_fraction digit _)]
    exact ⟨_, _, before, behind, List.forall_mem_append.mpr ⟨whole, fraction⟩, rfl⟩
  case converts =>
    rw [converted]
    exact Binary64.ofDecimal_ne_nan _ _ _
  case accepts =>
    rw [number, converted]
    rfl

/-- Every lexeme that the recognizer of numbers reads over, from a reading in step with a text without
NUL, is converted exactly.  Without a point it is the integer of its value or a fault, and that just where
it has no digits or 64 bits are too few.  With a point it is the number that its text is written as. -/
theorem number_converts {text : String} (absent : '\x00' ∉ text.toList) :
    ∃ s, Source.ofText text Source.defaultSentinel = .ok s ∧ ∀ p ≤ s.length,
      ∀ lexeme, ScansNumber s p lexeme →
        (.single '.' ∉ lexeme → ConvertsInteger s p lexeme) ∧
        (.single '.' ∈ lexeme → ConvertsFraction s p lexeme) := by
  have alone := Lexer.ofText?_defaultSentinel
  obtain ⟨s, opened⟩ := Source.exists_ofText alone (Cluster.single_notMem absent)
  have inert : s.sentinel.Inert := (Source.of_ofText alone opened).2 ▸ Cluster.inert_nul
  refine ⟨s, opened, fun p bound lexeme scans => ?_⟩
  -- what is read over is the longest number, so what the scan says of that is what is made of it
  have longest := scans.longest inert bound
  obtain ⟨rest, split⟩ := longest.begins
  have longer := split ▸ longest
  cases longest.spelled with
  | prefixed negative other nonempty inside =>
    rename_i radix run
    have continues := Radix.continues_of_alphabet inside
    have scan := longer.scan_prefixed other nonempty inside
    rw [split] at scan
    have converts : ConvertsInteger s p (sign negative ++ (radix.mark ++ run)) :=
      .of_scan inert bound (Radix.begins_mark other run) continues nonempty scan
    exact ⟨fun _ => converts, fun point => absurd point (Lexeme.point_notMem continues)⟩
  | whole negative digit inside =>
    rename_i c run
    have continues : ∀ d ∈ c :: run, Radix.decimal.continues d = true :=
      List.forall_mem_cons.mpr ⟨continues_of_isDigit digit, Radix.continues_of_alphabet inside⟩
    have scan := longer.scan_whole digit inside
    rw [split] at scan
    have converts : ConvertsInteger s p (sign negative ++ (Radix.decimal.mark ++ c :: run)) :=
      .of_scan inert bound digit continues (List.cons_ne_nil _ _) scan
    have integral : Cluster.single '.' ∉ sign negative ++ (Radix.decimal.mark ++ c :: run) :=
      Lexeme.point_notMem continues
    exact ⟨fun _ => converts, fun point => absurd point integral⟩
  | fraction negative digit inside unseparated follows within =>
    rename_i c d run more
    have scan := longer.scan_fraction digit inside unseparated follows within
    rw [split] at scan
    have before : ∀ e ∈ c :: run, Radix.decimal.continues e = true :=
      List.forall_mem_cons.mpr ⟨continues_of_isDigit digit, Radix.continues_of_alphabet inside⟩
    have behind : ∀ e ∈ d :: more, Radix.decimal.continues e = true :=
      List.forall_mem_cons.mpr ⟨continues_of_isDigit follows, Radix.continues_of_alphabet within⟩
    exact ⟨fun integral => absurd (by simp) integral, fun _ =>
      .of_scan inert bound digit before follows behind scan⟩

/-- A sign, a mark, separators and large digits: the integer is minus two hundred and fifty-five. -/
theorem number_converts_hexadecimal :
    ∃ s, Source.ofText "-0x_F_f" Source.defaultSentinel = .ok s ∧
      ScansNumber s 0 (Scan.word "-0x_F_f") ∧
      number (s.reading 0) = .accept (.integer (-255)) (s.reading 7) := by
  obtain ⟨s, opened, converts⟩ := number_converts (by decide : '\x00' ∉ "-0x_F_f".toList)
  have clusters : s.rest 0 = Scan.word "-0x_F_f" :=
    (Source.of_ofText Lexer.ofText?_defaultSentinel opened).1.trans (by decide +kernel)
  have inert : s.sentinel.Inert :=
    (Source.of_ofText Lexer.ofText?_defaultSentinel opened).2 ▸ Cluster.inert_nul
  have scan : Scan.number (s.rest 0) = .accept (.integer (-255)) 7 := by
    rw [clusters]
    decide +kernel
  have scans : ScansNumber s 0 (Scan.word "-0x_F_f") := by
    refine ⟨clusters ▸ List.prefix_rfl, ?_⟩
    rw [number_reading (.of_inert inert) (Nat.zero_le _), scan]
    rfl
  have integer := (converts 0 (Nat.zero_le _) _ scans).1 (by decide)
  have value : Lexeme.value (Scan.word "-0x_F_f") = -255 := by decide +kernel
  have convertible : Lexeme.Convertible (Scan.word "-0x_F_f") := by
    refine ⟨by decide +kernel, ?_⟩
    rw [value]
    decide
  refine ⟨s, opened, scans, ?_⟩
  rw [integer.accepts convertible, value]
  rfl

end Recognizer

end LiteralLexer
