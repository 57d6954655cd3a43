import LiteralLexer.Proofs.Lexer.Whole
import LiteralLexer.Proofs.Literal.Separator
import LiteralLexer.Proofs.Result

/-!
# Whether the sentinel shows

Every look-ahead behind the end of a text finds the sentinel, as if it were text.  Nothing is mistaken
for a part of a literal as long as the sentinel stops every loop (`Cluster.Terminator`): it need not be
inert, so a quote, a dash or a newline does as well as any other cluster.  There is one exception.  A
slash looks for a star behind it, so a text that ends with a slash is taken for an open comment if the
sentinel is a star; `tokenize_sentinel_iff` says that this is the only way in which a sentinel shows.
-/

namespace LiteralLexer

/-! ## A slash at the end of a text -/

/-- The slash is a token of its own, and nothing follows it. -/
theorem EndsInSlash.exists_tokens {cs : List Cluster} {p : Nat} (slash : EndsInSlash cs p) :
    ∃ tokens, Tokenizes cs p (.ok tokens) := by
  induction slash with
  | here skips last =>
    rename_i p q
    have size := congrArg List.length last
    rw [List.length_drop, List.length_singleton] at size
    have here : cs[q]? = some (.single '/') := by
      rw [← Nat.add_zero q, ← List.getElem?_drop, last, List.getElem?_cons_zero]
    have none : ∀ scan, ¬ Literal (cs.drop q) scan := by
      rw [last]
      exact Literal.none_single (by decide) (by decide) (by decide)
    have final : Tokenizes cs cs.length (.ok [.endOfInput]) := .final
    have stop : cs.length = q + 1 := by omega
    rw [stop] at final
    exact ⟨_, .token ⟨q, skips, .undefined here none⟩ (by simp) final⟩
  | later step inner rest ih =>
    obtain ⟨tokens, run⟩ := ih
    exact ⟨_, .token step inner run⟩

namespace Recognizer

variable {s : Source} {q : Nat}

/-- A star behind the last slash is taken for the mark of a block comment, and the comment is open. -/
theorem comment_slash (star : s.sentinel = .single '*') (last : s.rest q = [.single '/']) :
    ∃ r, comment (s.reading q) = .fault (s.reading q) .unterminatedComment r := by
  have current : (s.reading q).current = .single '/' := by
    rw [Source.current_reading, last]
    rfl
  have ahead : (s.reading q).ahead 1 = .single '*' := by
    rw [Source.ahead_reading, last]
    exact star
  -- behind the star there is only the sentinel again, which ends the body of the comment
  have opened : ((s.reading q).advance 2).current = ((s.reading q).advance 2).sentinel := by
    have behind : (s.reading q).ahead 2 = s.sentinel := by
      rw [Source.ahead_reading, last]
      rfl
    rw [Reading.sentinel_advance, Source.sentinel_reading]
    exact behind
  have body (fuel : Nat) : blockBody (fuel + 1) [] ((s.reading q).advance 2) =
      (none, (s.reading q).advance 2) := by
    rw [blockBody.eq_3 _ _ _ (by simp)]
    exact if_pos opened
  refine ⟨(s.reading q).advance 2, ?_⟩
  simp only [comment, current, ahead, body, if_true]
  rw [if_neg (by decide)]

end Recognizer

namespace Lexer

variable {s : Source} {p : Nat}

theorem nextToken_slash (terminator : s.sentinel.Terminator) (star : s.sentinel = .single '*')
    (bound : p ≤ s.length) (last : s.rest (s.solid p) = [.single '/']) :
    (running Transform.defaultOrder s p).nextToken.1 = .error (.malformed
      { fault := .unterminatedComment, location := s.locationAt (s.solid p) }) := by
  obtain ⟨r, opens⟩ := Recognizer.comment_slash star last
  have current : (s.reading (s.solid p)).current = .single '/' := by
    rw [Source.current_reading, last]
    rfl
  have notFinal : Recognizer.endOfInput (s.reading (s.solid p)) = .decline (s.reading (s.solid p)) := by
    rw [Recognizer.endOfInput, current, Source.sentinel_reading, star]
    exact if_neg (by decide)
  have notNewLine : Recognizer.newLine (s.reading (s.solid p)) = .decline (s.reading (s.solid p)) := by
    rw [Recognizer.newLine, current]
    exact if_neg (by decide)
  have offered : Stage.offer (Transform.defaultOrder.map .builtin) (s.reading p) =
      .fault (s.reading (s.solid p)) .unterminatedComment r := by
    rw [Transform.defaultOrder, List.map_cons, Stage.offer_whitespace terminator.notWhitespace bound]
    simp only [List.map_cons, Stage.offer, Stage.recognizer, Transform.recognizer, notFinal,
      notNewLine, opens, Verdict.fault]
  have start : Reading.start (running Transform.defaultOrder s p).cursor = s.reading p :=
    Source.start_reading bound
  have stages : (running Transform.defaultOrder s p).stages = Transform.defaultOrder.map .builtin := rfl
  rw [nextToken, start, stages, offered, Verdict.fault, Source.location_reading]

/-- With a star as the sentinel, a text that ends with a slash is refused. -/
theorem tokensWithin_slash (terminator : s.sentinel.Terminator) (star : s.sentinel = .single '*')
    (bound : p ≤ s.length) (slash : EndsInSlash s.clusters.toList p) (fuel : Nat)
    (enough : s.length < p + fuel) : ∃ found,
      (running Transform.defaultOrder s p).tokensWithin fuel = .error (.malformed found) := by
  induction fuel generalizing p with
  | zero => omega
  | succ fuel ih =>
    by_cases last : s.rest (s.solid p) = [.single '/']
    · exact ⟨_, tokensWithin_error (nextToken_slash terminator star bound last) fuel⟩
    · obtain ⟨outcome, stop, step, reads⟩ :=
        exists_reads_of_terminator terminator bound fun same => absurd same last
      cases slash with
      | here skips ends =>
        obtain rfl := skips.unique (Source.skips_solid bound)
        exact absurd ends last
      | later reread inner rest =>
        obtain ⟨rfl, rfl⟩ := reads.unique reread
        obtain ⟨start, skips, nonempty, within, _⟩ := reads.exists_span inner
        have ahead := skips.ahead
        obtain ⟨found, run⟩ := ih within rest (by omega)
        exact ⟨found, by rw [tokensWithin_token step inner, run]; rfl⟩

end Lexer

/-! ## Whole texts -/

section Whole

variable {text sentinel : String} {mark : Cluster} (alone : Cluster.ofText? sentinel = some mark)
  (absent : mark ∉ Cluster.ofText text) (terminator : mark.Terminator)

include alone absent terminator

theorem tokenize_slash (star : mark = .single '*') (slash : EndsInSlash (Cluster.ofText text) 0) :
    ∃ found, tokenize text { sentinel } true = .error (.malformed found) := by
  obtain ⟨s, clusters, rfl, run⟩ := exists_tokens_running alone absent
  rw [← clusters] at slash
  rw [run]
  exact Lexer.tokensWithin_slash terminator star (Nat.zero_le _) slash (s.length + 2) (by omega)

/-- Whether a text that ends with a slash has tokens tells a star from other sentinels. -/
theorem tokenize_eq_ok_iff (slash : EndsInSlash (Cluster.ofText text) 0) :
    (∃ tokens, tokenize text { sentinel } true = .ok tokens) ↔ mark ≠ .single '*' := by
  constructor
  · rintro ⟨tokens, run⟩ star
    obtain ⟨found, fails⟩ := tokenize_slash alone absent terminator star slash
    rw [fails] at run
    contradiction
  · intro other
    obtain ⟨tokens, spelled⟩ := slash.exists_tokens
    have run := tokenizes_tokenize_of_terminator alone absent terminator fun star => absurd star other
    exact ⟨tokens, run.unique spelled⟩

end Whole

theorem tokenize_filter (text : String) (options : LexerOptions) (includeComments : Bool) :
    tokenize text options includeComments =
      (tokenize text options true).map (filterComments includeComments) := by
  cases opened : Lexer.ofText text options with
  | error failure => simp [tokenize, opened, bind, Except.bind, Except.map]
  | ok lexer => rw [tokenize_eq opened, tokenize_eq opened, map_filterComments_true]

/-- Two sentinels that every loop stops at come to the same for a text, be it tokens or a fault, unless
one of them is a star, the other is not, and the steps come to a slash that ends the text. -/
theorem tokenize_sentinel_iff {text a b : String} {mark other : Cluster}
    (alone : Cluster.ofText? a = some mark) (single : Cluster.ofText? b = some other)
    (terminator : mark.Terminator) (stops : other.Terminator)
    (absent : mark ∉ Cluster.ofText text) (missing : other ∉ Cluster.ofText text)
    (includeComments : Bool) :
    tokenize text { sentinel := a } includeComments =
        tokenize text { sentinel := b } includeComments ↔
      ((mark = .single '*' ↔ other = .single '*') ∨ ¬ EndsInSlash (Cluster.ofText text) 0) := by
  rw [tokenize_filter text { sentinel := a }, tokenize_filter text { sentinel := b }]
  by_cases slash : EndsInSlash (Cluster.ofText text) 0
  · -- a star is told by the fault, and two stars are one text
    have told := tokenize_eq_ok_iff alone absent terminator slash
    have told' := tokenize_eq_ok_iff single missing stops slash
    simp only [slash, not_true, or_false]
    constructor
    · intro same
      rw [← not_iff_not, ← Ne, ← Ne, ← told, ← told', ← exists_map_eq_ok, same, exists_map_eq_ok]
    · intro both
      by_cases star : mark = .single '*'
      · have equal : a = b := by
          rw [← Cluster.text_of_ofText? alone, ← Cluster.text_of_ofText? single, star, both.mp star]
        rw [equal]
      · have run := tokenizes_tokenize_of_terminator alone absent terminator
          fun same => absurd same star
        have rerun := tokenizes_tokenize_of_terminator single missing stops
          fun same => absurd (both.mpr same) star
        rw [run.unique rerun]
  · -- no star is looked for, and the grammar leaves only one result
    have run := tokenizes_tokenize_of_terminator alone absent terminator fun _ => slash
    have rerun := tokenizes_tokenize_of_terminator single missing stops fun _ => slash
    simp [run.unique rerun, slash]

theorem tokenize_sentinel_iff_point :
    tokenize "0 -/" { sentinel := "." } true = tokenize "0 -/" { sentinel := "\n" } true :=
  (tokenize_sentinel_iff (by decide +kernel : Cluster.ofText? "." = some (.single '.'))
    (by decide +kernel : Cluster.ofText? "\n" = some (.single '\n')) (by decide) (by decide)
    (by decide +kernel) (by decide +kernel) true).mpr (.inl (by decide))

/-- Of two sentinels that every loop stops at, one is taken for a mark of the text. -/
theorem tokenize_star_ne_nul :
    (Cluster.ofText? "*" = some (.single '*') ∧ Cluster.Terminator (.single '*') ∧
      Cluster.single '*' ∉ Cluster.ofText "/") ∧
    (Cluster.ofText? "\x00" = some (.single '\x00') ∧ Cluster.Terminator (.single '\x00') ∧
      Cluster.single '\x00' ∉ Cluster.ofText "/") ∧
    tokenize "/" { sentinel := "*" } true = .error (.malformed
      { fault := .unterminatedComment, location := { line := 1, column := 1, offset := 0 } }) ∧
    tokenize "/" { sentinel := "\x00" } true = .ok [.undefined "/", .endOfInput] := by
  decide +kernel

end LiteralLexer
