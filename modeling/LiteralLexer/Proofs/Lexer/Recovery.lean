import LiteralLexer.Proofs.Lexer.Fault
import LiteralLexer.Proofs.Lexer.Partition
import LiteralLexer.Proofs.Lexer.Position

/-!
# Going on after a fault

A failed attempt at a token leaves the lexer behind what was read of the malformed literal, and
`Resumes` says where that is for each code of an error.  It is always ahead of where the attempt began
and never behind the text, so a driver that ignores faults and tries again comes to the end of the
text, after one attempt for each cluster at most (`Lexer.tryNextToken_recovers`).
-/

namespace LiteralLexer

/-! ## Where an attempt leads -/

/-- Where a lexer goes on after an error about a literal that begins at the place `q`, by the code of the
error and its details.  What has no end is read to the end of the text, and of everything else the cluster
that gave the fault away is read. -/
inductive Resumes (cs : List Cluster) (q : Nat) : String → Context → Nat → Prop where
  | openComment : Resumes cs q "LITLEX-L001" [] cs.length
  | openString : Resumes cs q "LITLEX-L003" [] cs.length
  | emptyCharacter : Resumes cs q "LITLEX-L002"
      [("reason", .text "expected a character between the quotes")] (q + 2)
  | crowdedCharacter : Resumes cs q "LITLEX-L002"
      [("reason", .text "expected only one character between the quotes")] (min (q + 3) cs.length)
  | number {lexeme rest : List Cluster} (split : cs.drop q = lexeme ++ rest)
      (literal : Literal (cs.drop q)
        (.reject (.failedConversion (Cluster.joinText lexeme)) lexeme.length)) :
      Resumes cs q "LITLEX-L004"
        [("literal", .text (Cluster.joinText lexeme)), ("target", .text "64-bit integer")]
        (min (q + lexeme.length + 1) cs.length)

/-- A fault that is found from the place `p` on, and where the lexer goes on after it. -/
inductive Recovers (cs : List Cluster) (p : Nat) : LocatedFault → Nat → Prop where
  | intro {q size stop : Nat} {fault : Fault} (skips : Skips cs p q)
      (literal : Literal (cs.drop q) (.reject fault size))
      (resumes : Resumes cs q fault.kind.code fault.context stop) :
      Recovers cs p { fault, location := locationAt cs q } stop

/-- What an attempt at a token from the place `p` comes to, and the place that it leads to. -/
inductive Attempts (cs : List Cluster) (p : Nat) : Except LocatedFault Token → Nat → Prop where
  | ends : Attempts cs p (.ok .endOfInput) cs.length
  | token {token : Token} {stop : Nat} (inner : token ≠ .endOfInput) (ahead : p < stop)
      (within : stop ≤ cs.length) : Attempts cs p (.ok token) stop
  | fault {found : LocatedFault} {stop : Nat} (recovers : Recovers cs p found stop)
      (ahead : p < stop) (within : stop ≤ cs.length) : Attempts cs p (.error found) stop

/-! ## Malformed literals -/

theorem Scan.length_of_reject {lexeme run : List Cluster} {radix : Radix} {negative : Bool}
    {fault : Fault} {size : Nat} (rejected : integer lexeme radix negative run = .reject fault size) :
    size = lexeme.length := by
  have spelled := size_integer lexeme radix negative run
  rw [rejected] at spelled
  exact spelled

/-- A malformed number is read up to its end, and one cluster further. -/
theorem Resumes.of_integer {cs lexeme rest run : List Cluster} {q size : Nat} {radix : Radix}
    {negative : Bool} {fault : Fault} (split : cs.drop q = lexeme ++ rest)
    (literal : Literal (cs.drop q) (Scan.integer lexeme radix negative run))
    (rejected : Scan.integer lexeme radix negative run = .reject fault size) :
    Resumes cs q fault.kind.code fault.context (min (q + size + 1) cs.length) := by
  obtain rfl := Scan.length_of_reject rejected
  obtain rfl := Scan.eq_failedConversion rejected
  rw [rejected] at literal
  exact .number split literal

theorem Literal.resumes {cs : List Cluster} {q size : Nat} {fault : Fault}
    (literal : Literal (cs.drop q) (.reject fault size)) :
    Resumes cs q fault.kind.code fault.context (min (q + size + 1) cs.length) := by
  have fits : (cs.drop q).length = cs.length - q := List.length_drop
  -- the clusters and the scan are indices of the rule, so they are named before the rules are told apart
  generalize rejected : Scan.reject fault size = scan at literal
  generalize split : cs.drop q = tail at literal fits
  cases literal with
  | @prefixed negative radix run rest other nonempty inside stops =>
    have cut : cs.drop q = sign negative ++ (radix.mark ++ run) ++ rest := by
      simp only [split, List.append_assoc]
    exact .of_integer cut (split ▸ .prefixed negative other nonempty inside stops) rejected.symm
  | @whole negative c run rest digit inside stops plain integral =>
    have cut : cs.drop q = sign negative ++ (c :: run) ++ rest := by
      simp only [split, List.append_assoc]
    exact .of_integer cut (split ▸ .whole negative digit inside stops plain integral) rejected.symm
  | openComment unclosed =>
    cases rejected
    rw [List.length_cons, List.length_cons] at fits
    rw [Nat.min_eq_right (by omega)]
    exact .openComment
  | openString unclosed =>
    cases rejected
    rw [List.length_cons] at fits
    rw [Nat.min_eq_right (by omega)]
    exact .openString
  | emptyCharacter =>
    cases rejected
    rw [List.length_cons, List.length_cons] at fits
    rw [Nat.min_eq_left (by omega)]
    exact .emptyCharacter
  | @crowdedCharacter rest content unclosed =>
    cases rejected
    rw [List.length_cons] at fits
    -- a quote may be all that is left of the text
    have stop : min (q + min 2 (rest.length + 1) + 1) cs.length = min (q + 3) cs.length := by omega
    rw [stop]
    exact .crowdedCharacter
  | _ => contradiction

/-! ## Steps -/

/-- The end of the text is found at the end of the text. -/
theorem Reads.stop_of_endOfInput {cs : List Cluster} {p stop : Nat}
    (reads : Reads cs p (.ok .endOfInput) stop) : stop = cs.length := by
  have all := reads.skips_all
  obtain ⟨q, skips, finds⟩ := reads
  obtain rfl := skips.unique all
  generalize outcome : Except.ok Token.endOfInput = found at finds
  cases finds with
  | token literal =>
    have fits := literal.size_le
    simp only [Scan.size, List.length_drop] at fits
    omega
  | fault => contradiction
  | undefined => cases outcome

theorem Reads.attempts {cs : List Cluster} {p stop : Nat} {outcome : Except LexFailure Token}
    (reads : Reads cs p outcome stop) :
    ∃ attempt : Except LocatedFault Token, outcome = attempt.mapError .malformed ∧
      Attempts cs p attempt stop := by
  cases outcome with
  | ok token =>
    refine ⟨.ok token, rfl, ?_⟩
    by_cases final : token = .endOfInput
    · subst final
      obtain rfl := reads.stop_of_endOfInput
      exact .ends
    · obtain ⟨start, skips, nonempty, within, _⟩ := reads.exists_span final
      exact .token final (Nat.lt_of_le_of_lt skips.ahead nonempty) within
  | error failure =>
    obtain ⟨q, skips, finds⟩ := reads
    cases finds with
    | @fault size fault literal reported =>
      refine ⟨.error _, rfl, .fault (.intro skips literal literal.resumes) ?_ (Nat.min_le_right _ _)⟩
      -- a malformed literal has a cluster, so it begins before the end of the text
      have fits := literal.size_le
      have ahead := skips.ahead
      rcases literal.size_pos with ⟨_, accepted⟩ | positive
      · contradiction
      · simp only [Scan.size, List.length_drop] at fits positive
        omega

namespace Lexer

theorem tryNextToken_of_nextToken {l m : Lexer} {attempt : Except LocatedFault Token}
    (step : l.nextToken = (attempt.mapError .malformed, m)) : l.tryNextToken = (.ok attempt, m) := by
  cases attempt with
  | ok token => simp only [tryNextToken, step, mapError_ok]
  | error found => simp only [tryNextToken, step, mapError_error]

theorem exists_attempt {s : Source} {p : Nat} (inert : s.sentinel.Inert) (bound : p ≤ s.length) :
    ∃ attempt stop, (running Transform.defaultOrder s p).tryNextToken =
      (.ok attempt, running Transform.defaultOrder s stop) ∧ Attempts s.clusters.toList p attempt stop := by
  obtain ⟨outcome, stop, step, reads⟩ := exists_reads inert bound
  obtain ⟨attempt, rfl, attempts⟩ := reads.attempts
  exact ⟨attempt, stop, tryNextToken_of_nextToken step, attempts⟩

/-- The lexer after a number of attempts, whatever comes of them. -/
def retried (l : Lexer) (n : Nat) : Lexer := l.performAll (List.replicate n .tryNextToken)

theorem retried_succ (l : Lexer) (n : Nat) : l.retried (n + 1) = l.tryNextToken.2.retried n := rfl

/-- So many attempts find something else, and the next one finds the end of the text. -/
structure Exhausts (l : Lexer) (n : Nat) (last : Lexer) : Prop where
  before : ∀ m < n, ∃ attempt, (l.retried m).tryNextToken.1 = .ok attempt ∧
    attempt ≠ .ok .endOfInput
  final : (l.retried n).tryNextToken = (.ok (.ok .endOfInput), last)

theorem Exhausts.succ {l m last : Lexer} {attempt : Except LocatedFault Token} {n : Nat}
    (step : l.tryNextToken = (.ok attempt, m)) (other : attempt ≠ .ok .endOfInput)
    (exhausts : Exhausts m n last) : Exhausts l (n + 1) last where
  before k less := by
    cases k with
    | zero => exact ⟨attempt, congrArg Prod.fst step, other⟩
    | succ k =>
      rw [retried_succ, step]
      exact exhausts.before k (Nat.lt_of_succ_lt_succ less)
  final := by
    rw [retried_succ, step]
    exact exhausts.final

/-- Attempts get ahead, so they come to the end of the text. -/
theorem exists_exhausts {s : Source} {p : Nat} (inert : s.sentinel.Inert) (bound : p ≤ s.length) :
    ∃ n ≤ s.length - p, Exhausts (running Transform.defaultOrder s p) n
      (running Transform.defaultOrder s s.length) := by
  have size : s.clusters.toList.length = s.length := Array.length_toList
  induction left : s.length - p using Nat.strongRecOn generalizing p with
  | ind _ ih =>
    obtain ⟨attempt, stop, step, attempts⟩ := exists_attempt inert bound
    rw [← size] at ih left bound ⊢
    cases attempts with
    | ends => exact ⟨0, Nat.zero_le _, by simp, step⟩
    | token inner ahead within =>
      obtain ⟨n, short, exhausts⟩ := ih (s.clusters.toList.length - stop) (by omega) within rfl
      exact ⟨n + 1, by omega, exhausts.succ step (by simpa using inner)⟩
    | fault recovers ahead within =>
      obtain ⟨n, short, exhausts⟩ := ih (s.clusters.toList.length - stop) (by omega) within rfl
      exact ⟨n + 1, by omega, exhausts.succ step (by simp)⟩

end Lexer

/-- The default lexer after a failed attempt from any place `p` of its text: it stands ahead of `p`,
within the text, and where the code of the error and its details say.  So whoever ignores faults and
tries again finds the end of the text, with at most one attempt for each cluster that is left before
that. -/
theorem Lexer.tryNextToken_recovers {text : String} {lexer : Lexer}
    (opened : Lexer.ofText text {} = .ok lexer) {p : Nat} (bound : p ≤ (Cluster.ofText text).length) :
    (∀ found l, (lexer.moveTo p).tryNextToken = (.ok (.error found), l) →
      ∃ stop, Recovers (Cluster.ofText text) p found stop ∧ p < stop ∧
        stop ≤ (Cluster.ofText text).length ∧ l = lexer.moveTo stop) ∧
    ∃ n ≤ (Cluster.ofText text).length - p,
      Exhausts (lexer.moveTo p) n (lexer.moveTo (Cluster.ofText text).length) := by
  obtain ⟨s, clusters, sentinel, rfl⟩ := exists_of_ofText_default opened
  have inert : s.sentinel.Inert := sentinel ▸ Cluster.inert_nul
  have size : s.length = (Cluster.ofText text).length := by
    rw [← clusters, Source.length, Array.length_toList]
  rw [← size] at bound ⊢
  refine ⟨fun found l step => ?_, exists_exhausts inert bound⟩
  obtain ⟨attempt, stop, stepped, attempts⟩ := exists_attempt inert bound
  rw [clusters] at attempts
  rw [moveTo_running, stepped] at step
  cases step
  cases attempts with
  | fault recovers ahead within => exact ⟨stop, recovers, ahead, size ▸ within, rfl⟩

theorem Lexer.tryNextToken_recovers_number : ∃ lexer, Lexer.ofText " 0x__ 'a" {} = .ok lexer ∧
    (lexer.moveTo 0).tryNextToken = (.ok (.error
      { fault := .failedConversion "0x__", location := ⟨1, 2, 1⟩ }), lexer.moveTo 6) ∧
    (∃ stop, Recovers (Cluster.ofText " 0x__ 'a") 0
        { fault := .failedConversion "0x__", location := ⟨1, 2, 1⟩ } stop ∧
      0 < stop ∧ stop ≤ 8 ∧ lexer.moveTo 6 = lexer.moveTo stop) ∧
    ∃ n ≤ 8, Exhausts (lexer.moveTo 0) n (lexer.moveTo 8) := by
  have recovers {lexer : Lexer} (opened : Lexer.ofText " 0x__ 'a" {} = .ok lexer) :=
    tryNextToken_recovers opened (Nat.zero_le _)
  exact ⟨_, rfl, rfl, (recovers rfl).1 _ _ rfl, (recovers rfl).2⟩

end LiteralLexer
