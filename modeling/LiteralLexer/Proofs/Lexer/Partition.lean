import LiteralLexer.Proofs.Lexer.Grammar
import LiteralLexer.Proofs.Literal.Spelling

/-!
# Lossless partition

The tokens of a text stand for pieces of it that follow one another: each token has a span of clusters
that spells it, and what lies between the spans is blank.  So nothing of the text is lost, nothing is
read twice, and the text can be put together again from the spans and the blanks.
-/

namespace LiteralLexer

/-- A token and the clusters that it was read from, from `start` up to `stop`. -/
structure TokenSpan where
  start : Nat
  stop : Nat
  token : Token

/-- The clusters from one place up to another. -/
def between (cs : List Cluster) (p q : Nat) : List Cluster := (cs.drop p).take (q - p)

/-- The clusters of a span. -/
def TokenSpan.lexeme (span : TokenSpan) (cs : List Cluster) : List Cluster := between cs span.start span.stop

/-- From the place `p` on, a text is cut into spans that spell their tokens, and blanks. -/
structure Partition (cs : List Cluster) (p : Nat) (spans : List TokenSpan) : Prop where
  ordered : spans.Pairwise fun span later => span.stop ≤ later.start
  inside : ∀ span ∈ spans, p ≤ span.start ∧ span.start < span.stop ∧ span.stop ≤ cs.length
  blank : ∀ i c, p ≤ i → cs[i]? = some c →
    (∀ span ∈ spans, i < span.start ∨ span.stop ≤ i) → c.isWhitespace = true
  spelled : ∀ span ∈ spans, Spells (span.stop = cs.length) span.token (span.lexeme cs)

/-- What lies before the spans, the spans and what lies between and behind them, in order. -/
def pieces (cs : List Cluster) : Nat → List TokenSpan → List (List Cluster)
  | p, [] => [cs.drop p]
  | p, span :: spans => between cs p span.start :: span.lexeme cs :: pieces cs span.stop spans

theorem between_append {cs : List Cluster} {p q : Nat} (ordered : p ≤ q) :
    between cs p q ++ cs.drop q = cs.drop p := by
  obtain ⟨n, rfl⟩ := Nat.exists_eq_add_of_le ordered
  rw [between, Nat.add_sub_cancel_left, ← List.drop_drop, List.take_append_drop]

/-- The clusters from a place up to the next one. -/
theorem between_succ {cs : List Cluster} {q : Nat} {c : Cluster} (here : cs[q]? = some c) :
    between cs q (q + 1) = [c] := by
  obtain ⟨inside, here⟩ := List.getElem?_eq_some_iff.mp here
  rw [between, Nat.add_sub_cancel_left, List.take_one, List.head?_drop,
    List.getElem?_eq_getElem inside, here]
  rfl

namespace Partition

variable {cs : List Cluster} {p : Nat}

theorem nil (skips : Skips cs p cs.length) : Partition cs p [] where
  ordered := .nil
  inside := by simp
  blank i c after here _ := skips.blank i c after (List.getElem?_eq_some_iff.mp here).1 here
  spelled := by simp

theorem cons {span : TokenSpan} {spans : List TokenSpan} (skips : Skips cs p span.start)
    (nonempty : span.start < span.stop) (within : span.stop ≤ cs.length)
    (spells : Spells (span.stop = cs.length) span.token (span.lexeme cs))
    (partition : Partition cs span.stop spans) : Partition cs p (span :: spans) where
  ordered := by
    refine .cons (fun later member => ?_) partition.ordered
    exact (partition.inside later member).1
  inside := by
    refine List.forall_mem_cons.mpr ⟨⟨skips.ahead, nonempty, within⟩, fun later member => ?_⟩
    have := partition.inside later member
    have := skips.ahead
    omega
  blank i c after here outside := by
    obtain ⟨first, others⟩ := List.forall_mem_cons.mp outside
    rcases first with before | behind
    · exact skips.blank i c after before here
    · exact partition.blank i c behind here others
  spelled := List.forall_mem_cons.mpr ⟨spells, partition.spelled⟩

end Partition

/-- Pieces that follow one another make up the text from the first of them on. -/
theorem flatten_pieces {cs : List Cluster} {p : Nat} {spans : List TokenSpan}
    (ordered : spans.Pairwise fun span later => span.stop ≤ later.start)
    (inside : ∀ span ∈ spans, p ≤ span.start ∧ span.start < span.stop ∧ span.stop ≤ cs.length) :
    (pieces cs p spans).flatten = cs.drop p := by
  induction spans generalizing p with
  | nil => simp [pieces]
  | cons span spans ih =>
    obtain ⟨after, nonempty, _⟩ := inside span List.mem_cons_self
    obtain ⟨behind, ordered⟩ := List.pairwise_cons.mp ordered
    have rest : (pieces cs span.stop spans).flatten = cs.drop span.stop := by
      refine ih ordered fun later member => ⟨behind later member, ?_⟩
      exact (inside later (List.mem_cons_of_mem _ member)).2
    rw [pieces, List.flatten_cons, List.flatten_cons, rest, TokenSpan.lexeme,
      between_append (Nat.le_of_lt nonempty), between_append after]

/-! ## Steps and runs -/

/-- What a span was read from: it begins with no blank, and its token is what is found there. -/
structure TokenSpan.Found (cs : List Cluster) (span : TokenSpan) : Prop where
  solid : ∀ c, cs[span.start]? = some c → c.isWhitespace = false
  finds : Finds cs span.start (.ok span.token) span.stop
  inner : span.token ≠ .endOfInput

theorem Finds.spells {cs : List Cluster} {q stop : Nat} {token : Token}
    (finds : Finds cs q (.ok token) stop) (bound : q ≤ cs.length) (inner : token ≠ .endOfInput) :
    q < stop ∧ stop ≤ cs.length ∧ Spells (stop = cs.length) token (between cs q stop) := by
  cases finds with
  | token literal =>
    rename_i size
    have fits := literal.size_le
    have spells := literal.spells rfl inner
    -- only the end of the text has no clusters
    rcases literal.size_pos with ⟨_, accepted⟩ | positive
    · cases accepted
      contradiction
    · simp only [Scan.size, List.length_drop] at fits positive spells
      have final : size = cs.length - q ↔ q + size = cs.length := by omega
      rw [final] at spells
      rw [between, Nat.add_sub_cancel_left]
      exact ⟨by omega, by omega, spells⟩
  | undefined here none =>
    rw [between_succ here]
    exact ⟨Nat.lt_succ_self q, (List.getElem?_eq_some_iff.mp here).1, .undefined⟩

theorem Reads.exists_span {cs : List Cluster} {p stop : Nat} {token : Token}
    (reads : Reads cs p (.ok token) stop) (inner : token ≠ .endOfInput) :
    ∃ start, Skips cs p start ∧ start < stop ∧ stop ≤ cs.length ∧
      Spells (stop = cs.length) token (between cs start stop) := by
  obtain ⟨q, skips, finds⟩ := reads
  exact ⟨q, skips, finds.spells skips.within inner⟩

/-- A step that finds the end of the text has skipped all that was left of it. -/
theorem Reads.skips_all {cs : List Cluster} {p stop : Nat}
    (reads : Reads cs p (.ok .endOfInput) stop) : Skips cs p cs.length := by
  obtain ⟨q, skips, finds⟩ := reads
  -- the token is an index of the rule, so it is named before the rules are told apart
  generalize outcome : Except.ok Token.endOfInput = found at finds
  cases finds with
  | token literal =>
    cases outcome
    have final := List.drop_eq_nil_iff.mp (literal.eq_nil_of_endOfInput rfl)
    rwa [Nat.le_antisymm skips.within final] at skips
  | fault => contradiction
  | undefined => cases outcome

namespace Lexer

/-- The tokens that a run delivers have spans that partition what is left of the text, and each is what
is found where its span begins. -/
theorem Delivers.exists_spans {s : Source} (inert : s.sentinel.Inert) {l last : Lexer}
    {tokens : List Token} (delivers : Delivers l tokens last)
    (final : last.nextToken.1 = .ok .endOfInput) {p : Nat} (bound : p ≤ s.length)
    (place : l = running Transform.defaultOrder s p) :
    ∃ spans : List TokenSpan, spans.map TokenSpan.token = tokens ∧
      Partition s.clusters.toList p spans ∧
      (∀ i span, spans[i]? = some span → (l.after (i + 1)).position = span.stop) ∧
      ∀ span ∈ spans, span.Found s.clusters.toList := by
  induction delivers generalizing p with
  | nil =>
    subst place
    obtain ⟨outcome, stop, step, reads⟩ := exists_reads inert bound
    rw [step] at final
    subst final
    exact ⟨[], rfl, .nil reads.skips_all, by simp, by simp⟩
  | cons step inner rest ih =>
    subst place
    obtain ⟨outcome, stop, stepped, start, skips, finds⟩ := exists_reads inert bound
    rw [stepped] at step
    cases step
    obtain ⟨nonempty, within, spells⟩ := finds.spells skips.within inner
    obtain ⟨spans, rfl, partition, places, found⟩ := ih final within rfl
    refine ⟨{ start, stop, token := _ } :: spans, rfl,
      .cons skips nonempty within spells partition, fun i span here => ?_,
      List.forall_mem_cons.mpr ⟨⟨skips.solid, finds, inner⟩, found⟩⟩
    -- the first step leads behind the first span, and the others are those of the rest
    rw [after, stepped]
    cases i with
    | zero =>
      cases here
      rfl
    | succ i => exact places i span here

end Lexer

/-- The spans of the tokens of a text that has no fault, with what each of them was read from. -/
theorem exists_spans_of_tokenize {text : String} {tokens : List Token}
    (run : tokenize text {} true = .ok tokens) :
    ∃ s : Source, s.clusters.toList = Cluster.ofText text ∧
      Lexer.ofText text {} = .ok (.running Transform.defaultOrder s 0) ∧
      ∃ spans : List TokenSpan, tokens = spans.map TokenSpan.token ++ [.endOfInput] ∧
        Partition (Cluster.ofText text) 0 spans ∧
        (∀ i span, spans[i]? = some span →
          ((Lexer.running Transform.defaultOrder s 0).after (i + 1)).position = span.stop) ∧
        ∀ span ∈ spans, span.Found (Cluster.ofText text) := by
  obtain ⟨s, inner, clusters, sentinel, opened, delivered, rfl⟩ := exists_of_tokenize run
  have inert : s.sentinel.Inert := sentinel ▸ Cluster.inert_nul
  obtain ⟨inner, last, rfl, delivers, final⟩ := Lexer.exists_delivers delivered
  obtain ⟨spans, rfl, partition, places, found⟩ :=
    delivers.exists_spans inert final (Nat.zero_le _) rfl
  rw [clusters] at partition found
  exact ⟨s, clusters, opened, spans, rfl, partition, places, found⟩

/-- The tokens of a text that has no fault.  They have spans that follow one another, each of which
ends where the lexer was after the step; a span spells its token, and everything outside the spans is
blank.  So the spans and the blanks between them, in order, are the text. -/
theorem tokenize_partition {text : String} {tokens : List Token}
    (run : tokenize text {} true = .ok tokens) :
    ∃ lexer, Lexer.ofText text {} = .ok lexer ∧ ∃ spans : List TokenSpan,
      tokens = spans.map TokenSpan.token ++ [.endOfInput] ∧
      Partition (Cluster.ofText text) 0 spans ∧
      (∀ i span, spans[i]? = some span → (lexer.after (i + 1)).position = span.stop) ∧
      Cluster.joinText (pieces (Cluster.ofText text) 0 spans).flatten = text := by
  obtain ⟨s, _, opened, spans, rfl, partition, places, _⟩ := exists_spans_of_tokenize run
  refine ⟨_, opened, spans, rfl, partition, places, ?_⟩
  rw [flatten_pieces partition.ordered partition.inside, List.drop_zero, Cluster.joinText_ofText]

theorem tokenize_partition_families :
    ∃ lexer, Lexer.ofText " -a 0x1f /*b*/\n'c'" {} = .ok lexer ∧ ∃ spans : List TokenSpan,
      [.flag "a", .integer 31, .comment "b", .newLine, .character "c", .endOfInput] =
        spans.map TokenSpan.token ++ [.endOfInput] ∧
      Partition (Cluster.ofText " -a 0x1f /*b*/\n'c'") 0 spans ∧
      (∀ i span, spans[i]? = some span → (lexer.after (i + 1)).position = span.stop) ∧
      Cluster.joinText (pieces (Cluster.ofText " -a 0x1f /*b*/\n'c'") 0 spans).flatten =
        " -a 0x1f /*b*/\n'c'" :=
  tokenize_partition (by decide +kernel)

end LiteralLexer
