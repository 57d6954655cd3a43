import Mathlib.Data.List.Basic
import LiteralLexer.Config.Lexing
import LiteralLexer.Proofs.Lexer.Progress
import LiteralLexer.Proofs.Report

/-!
# Where a fault is reported

A text is at fault for a literal that is malformed, or for the sentinel in it, and the place of the
fault is where either begins (`tokenize_blames`).  The cluster there is no newline, so it stands in a
line of the text, and the report on the fault shows that line with the caret under the cluster
(`Config.report_tokenize`).
-/

namespace LiteralLexer

/-! ## What is at fault -/

/-- What begins at a place of a text with the sentinel `mark` is at fault. -/
inductive Blames (mark : Cluster) (cs : List Cluster) : Nat → Fault → Prop where
  | literal {q size : Nat} {fault : Fault} (rejected : Literal (cs.drop q) (.reject fault size)) :
      Blames mark cs q fault
  | sentinel (present : mark ∈ cs) : Blames mark cs (cs.idxOf mark) (.sentinelInText mark.text)

/-- What a construct that is rejected begins with, by the code of its error, in a text with the sentinel
`mark`. -/
inductive Begins (mark : Cluster) : String → Cluster → Prop where
  | comment : Begins mark "LITLEX-L001" (.single '/')
  | character : Begins mark "LITLEX-L002" (.single '\'')
  | string : Begins mark "LITLEX-L003" (.single '"')
  | number {c : Cluster} (first : c = .single '-' ∨ c.isDigit = true) : Begins mark "LITLEX-L004" c
  | sentinel : Begins mark "LITLEX-L005" mark

theorem Begins.notNewline {mark c : Cluster} {code : String} (begins : Begins mark code c)
    (inert : mark.Inert) : c.isNewline = false := by
  cases begins with
  | comment | character | string => decide
  | number first =>
    rcases first with rfl | digit
    · decide
    · exact (Cluster.class_of_isDigit digit).1
  | sentinel => exact inert.notNewline

theorem Scan.eq_failedConversion {lexeme run : List Cluster} {radix : Radix} {negative : Bool}
    {fault : Fault} {size : Nat} (rejected : integer lexeme radix negative run = .reject fault size) :
    fault = .failedConversion (Cluster.joinText lexeme) := by
  unfold integer at rejected
  split at rejected
  · contradiction
  · cases rejected
    rfl

/-- What a number begins with. -/
theorem exists_sign_append (negative : Bool) {c : Cluster} (digit : c.isDigit = true)
    (rest : List Cluster) : ∃ d, (sign negative ++ c :: rest)[0]? = some d ∧
      (d = .single '-' ∨ d.isDigit = true) := by
  cases negative with
  | true => exact ⟨_, rfl, .inl rfl⟩
  | false => exact ⟨c, rfl, .inr digit⟩

/-- A malformed literal begins as the code of its error says. -/
theorem Literal.begins {cs : List Cluster} {scan : Scan} {fault : Fault} {size : Nat}
    (literal : Literal cs scan) (rejected : scan = .reject fault size) (mark : Cluster) :
    ∃ c, cs[0]? = some c ∧ Begins mark fault.kind.code c := by
  cases literal with
  | prefixed negative other nonempty inside stops =>
    rw [Scan.eq_failedConversion rejected]
    obtain ⟨letter, spelled, _⟩ := exists_letter other
    have zero : (Cluster.single '0').isDigit = true := by decide
    rw [spelled]
    obtain ⟨c, here, first⟩ := exists_sign_append negative zero _
    exact ⟨c, here, .number first⟩
  | whole negative digit inside stops plain integral =>
    rw [Scan.eq_failedConversion rejected]
    obtain ⟨c, here, first⟩ := exists_sign_append negative digit _
    exact ⟨c, here, .number first⟩
  | openComment =>
    cases rejected
    exact ⟨_, rfl, .comment⟩
  | emptyCharacter | crowdedCharacter =>
    cases rejected
    exact ⟨_, rfl, .character⟩
  | openString =>
    cases rejected
    exact ⟨_, rfl, .string⟩
  | _ => contradiction

theorem Blames.begins {mark : Cluster} {cs : List Cluster} {q : Nat} {fault : Fault}
    (blames : Blames mark cs q fault) : ∃ c, cs[q]? = some c ∧ Begins mark fault.kind.code c := by
  cases blames with
  | literal rejected =>
    obtain ⟨c, first, begins⟩ := rejected.begins rfl mark
    rw [List.getElem?_drop, Nat.add_zero] at first
    exact ⟨c, first, begins⟩
  | sentinel present => exact ⟨mark, List.getElem?_idxOf present, .sentinel⟩

/-! ## Lexers -/

namespace Lexer

variable {ts : List Transform} {s : Source} {p : Nat}

/-- A step is at fault for a malformed literal at some place, or it finds a token. -/
theorem nextToken_blames (inert : s.sentinel.Inert) (bound : p ≤ s.length + 1) :
    (∃ q fault size, Literal (s.rest q) (.reject fault size) ∧ (running ts s p).nextToken.1 =
      .error (.malformed { fault, location := s.locationAt q })) ∨
    ∃ token stop, stop ≤ s.length + 1 ∧
      (running ts s p).nextToken = (.ok token, running ts s stop) := by
  -- an exhausted lexer does what one at the end of the text does
  obtain ⟨start, inside, same⟩ : ∃ start ≤ s.length,
      (running ts s p).nextToken = (running ts s start).nextToken := by
    rcases Nat.lt_or_eq_of_le bound with inside | rfl
    · exact ⟨p, Nat.le_of_lt_succ inside, rfl⟩
    · exact ⟨s.length, Nat.le_refl _, nextToken_exhausted⟩
  obtain ⟨q, scan, after, within, offered, outcome⟩ := Stage.offer_cases inert inside ts
  have step := same.trans (nextToken_of_offer inside offered)
  cases scan with
  | decline => exact .inr ⟨_, q + 1, by omega, step⟩
  | accept token size =>
    have literal := outcome.resolve_right (by simp)
    have fits := literal.size_le
    rw [Source.length_rest] at fits
    simp only [Scan.size] at fits
    exact .inr ⟨token, q + size, by omega, step⟩
  | reject fault size =>
    have literal := outcome.resolve_right (by simp)
    exact .inl ⟨q, fault, size, literal, by rw [step]; rfl⟩

theorem tokensWithin_blames (inert : s.sentinel.Inert) (bound : p ≤ s.length + 1) {fuel : Nat}
    {found : LocatedFault}
    (fails : (running ts s p).tokensWithin fuel = .error (.malformed found)) :
    ∃ q size, Literal (s.rest q) (.reject found.fault size) ∧ found.location = s.locationAt q := by
  induction fuel generalizing p with
  | zero => simp [tokensWithin] at fails
  | succ fuel ih =>
    obtain ⟨q, fault, size, literal, step⟩ | ⟨token, stop, within, step⟩ :=
      nextToken_blames inert bound
    · rw [tokensWithin_error step] at fails
      cases fails
      exact ⟨q, size, literal, rfl⟩
    · by_cases final : token = .endOfInput
      · subst final
        rw [tokensWithin_endOfInput (by rw [step])] at fails
        contradiction
      · rw [tokensWithin_token step final] at fails
        exact ih within (map_eq_error_iff.mp fails)

end Lexer

/-! ## Texts -/

/-- The place of a fault is where what is at fault begins. -/
theorem tokenize_blames {ts : List Transform} {text sentinel : String} {mark : Cluster}
    (noticed : .endOfInput ∈ ts) (alone : Cluster.ofText? sentinel = some mark) (inert : mark.Inert)
    {includeComments : Bool} {found : LocatedFault}
    (fails : tokenize text { stages := ts.map .builtin, sentinel } includeComments =
      .error (.malformed found)) :
    ∃ q : Nat, found.location = locationAt (Cluster.ofText text) q ∧
      Blames mark (Cluster.ofText text) q found.fault := by
  by_cases present : mark ∈ Cluster.ofText text
  · have refused := Lexer.ofText_refused noticed alone present
    rw [tokenize, refused] at fails
    cases fails
    exact ⟨_, rfl, .sentinel present⟩
  · obtain ⟨s, clusters, rfl, opened⟩ := Lexer.ofText_running noticed alone present
    rw [tokenize_eq opened] at fails
    obtain ⟨q, size, rejected, place⟩ :=
      Lexer.tokensWithin_blames inert (Nat.zero_le _) (map_eq_error_iff.mp fails)
    rw [Source.rest, clusters] at rejected
    rw [Source.locationAt, clusters] at place
    exact ⟨q, place, .literal rejected⟩

/-- The report on a fault that a configuration finds in a text can be drawn.  It is headed by the code and
the message of the error, and it shows the lines around the fault, with the caret under the first cluster
of what is at fault, which is one that the code allows. -/
theorem Config.report_tokenize {config : Config} {text : String} {mark : Cluster}
    (noticed : .endOfInput ∈ config.transforms)
    (alone : Cluster.ofText? config.sentinel = some mark) (inert : mark.Inert)
    {found : LocatedFault} (fails : config.tokenize text = .error (.malformed found)) :
    ∃ (line column offset : Nat) (c : Cluster),
      found.location = ⟨line, column, offset⟩ ∧
      Blames mark (Cluster.ofText text) offset found.fault ∧
      found.fault.Reported found.fault.kind.code found.fault.context
        (Template.render found.fault.kind.template found.fault.context) ∧
      StandsAt (Cluster.ofText text) c line column offset ∧ Begins mark found.fault.kind.code c ∧
      (LexFailure.malformed found).report text = .ok (Report.layout
        ("error[" ++ found.fault.kind.code ++ "]: " ++
          Template.render found.fault.kind.template found.fault.context)
        (linesOf (Cluster.ofText text)) line column) := by
  obtain ⟨q, place, blames⟩ := tokenize_blames noticed alone inert fails
  obtain ⟨c, here, begins⟩ := blames.begins
  obtain ⟨line, column, counted, stands⟩ := standsAt_locationAt here (begins.notNewline inert)
  rw [counted] at place
  have nonempty : text ≠ "" := by
    rintro rfl
    contradiction
  have located : found.toDiagnostic.location = some ⟨line, column, q⟩ := congrArg some place
  exact ⟨line, column, q, c, place, blames, found.fault.reported, stands, begins,
    Diagnostic.report_eq located nonempty stands.line_pos stands.line_le stands.column_pos⟩

theorem Config.report_tokenize_string : ∃ found : LocatedFault,
    Config.tokenize {} "-flag\n42 \"open" = .error (.malformed found) ∧
    (LexFailure.malformed found).report "-flag\n42 \"open" = .ok (String.intercalate "\n"
      ["error[LITLEX-L003]: Unterminated string literal: expected closing `\"`",
        "  --> 2:4",
        "   |",
        " 1 | -flag",
        " 2 | 42 \"open",
        "   |    ^",
        "   |"]) := by
  have fails : Config.tokenize {} "-flag\n42 \"open" =
      .error (.malformed { fault := .unterminatedString, location := ⟨2, 4, 9⟩ }) := by
    decide +kernel
  obtain ⟨line, column, offset, c, place, _, _, _, _, drawn⟩ :=
    report_tokenize (by decide) (by decide +kernel) Cluster.inert_nul fails
  obtain ⟨rfl, rfl⟩ : line = 2 ∧ column = 4 := by
    simp only [Location.mk.injEq] at place
    omega
  exact ⟨_, fails, drawn.trans (congrArg Except.ok (by decide +kernel))⟩

end LiteralLexer
