import LiteralLexer.Proofs.Juncture
import LiteralLexer.Proofs.Lexer.Partition
import LiteralLexer.Proofs.Sequence

/-!
# Text payloads and whole clusters

The text that a token carries is a run of whole clusters of the span that it was read from, unless the
token is a block comment whose last `*` shares its cluster with signs that are prepended to it: the end of
such a comment is found in the characters, and the signs are left in its text.  `tokenize_text_iff` says
that these comments are the only exception, and that they are always one.
-/

namespace LiteralLexer

/-- The text that a token carries as it stands in its literal. -/
def Token.text? : Token → Option String
  | .comment text | .character text | .uninterpolatedString text | .flag text | .undefined text =>
    some text
  | _ => none

/-- The clusters are a block comment, and the `*` of its end is no cluster of its own. -/
def SharesStar (lexeme : List Cluster) : Prop :=
  Scan.word "/*" <+: lexeme ∧ lexeme.dropLast.getLast? ≠ some (.single '*')

/-! ## The end of a block comment -/

theorem Cluster.exists_concat (c : Cluster) : ∃ cs x, c.toList = cs ++ [x] :=
  (List.eq_nil_or_concat' c.toList).resolve_left (List.cons_ne_nil _ _)

/-- What joins clusters ends with the last character of the last one. -/
theorem Cluster.exists_last {cs : List Cluster} {text : List Char} {x : Char}
    (joined : join cs = text ++ [x]) :
    ∃ before c chars, cs = before ++ [c] ∧ c.toList = chars ++ [x] ∧ join before ++ chars = text := by
  rcases List.eq_nil_or_concat' cs with rfl | ⟨before, c, rfl⟩
  · simp at joined
  · obtain ⟨chars, y, last⟩ := c.exists_concat
    rw [join_append, join_cons, join_nil, List.append_nil, last, ← List.append_assoc] at joined
    obtain ⟨rfl, same⟩ := List.append_inj' joined rfl
    cases same
    exact ⟨before, c, chars, rfl, last, rfl⟩

/-- A sign that is prepended is none of the two characters that end a comment. -/
theorem BreakClass.prepend_ne {x : Char} (prepend : BreakClass.of x = .prepend) :
    x ≠ '*' ∧ x ≠ '/' := by
  constructor <;>
  · rintro rfl
    simp [BreakClass.of] at prepend

section Sign

variable {before left run right : List Cluster} {c : Cluster} {signs : List Char} {x : Char}
  (star : c.toList = signs ++ [x] ++ ['*']) (notStar : x ≠ '*') (notSlash : x ≠ '/')
  (split : left ++ run ++ right = Scan.word "/*" ++ (before ++ [c, .single '/']))

include star notStar notSlash split

/-- A run with the text of the comment has all the signs in it that there are. -/
theorem sign_notMem (joined : Cluster.join run = Cluster.join before ++ signs ++ [x]) :
    x ∉ Cluster.join right := by
  have counted := congrArg (fun cs => (Cluster.join cs).count x) split
  simp only [Cluster.join_append, joined, Cluster.join_cons, star, List.count_append] at counted
  have mark : (Cluster.join (Scan.word "/*")).count x = 0 :=
    List.count_eq_zero.mpr (by simp [Scan.word, notStar, notSlash])
  have closer : List.count x ['*'] + (Cluster.single '/').toList.count x = 0 := by
    simp [notStar.symm, notSlash.symm]
  rw [mark, Cluster.join_nil, List.count_nil] at counted
  exact List.count_eq_zero.mp (by omega)

/-- Where a sign stands before the `*` of the end, no run of clusters has the text of the comment: the
sign would be in the run, and so would what comes behind the sign. -/
theorem join_ne_of_sign : Cluster.join run ≠ Cluster.join before ++ signs ++ [x] := by
  intro joined
  have outside := sign_notMem star notStar notSlash split joined
  obtain ⟨inner, last, chars, rfl, ends, _⟩ := Cluster.exists_last joined
  have place : left ++ inner ++ last :: right = Scan.word "/*" ++ before ++ [c, .single '/'] := by
    simpa using split
  rcases ends_cases place with rfl | rfl | behind
  · have alone : [] ++ ['/'] = chars ++ [x] := ends
    exact notSlash (List.cons.inj (List.append_inj' alone rfl).2).1.symm
  · rw [star] at ends
    exact notStar (List.cons.inj (List.append_inj' ends rfl).2).1.symm
  · refine outside (List.mem_flatMap.mpr ⟨c, behind, ?_⟩)
    simp [star]

end Sign

section BlockComment

variable {body : List Cluster} {text : List Char}
  (formed : ∀ c ∈ body, c.toList.IsChain Joins) (closed : Cluster.join body = text ++ ['*', '/'])

include formed closed

/-- A block comment ends with a `/`, and before it there is a cluster that ends with a `*`, and in which
there may be signs before that. -/
theorem exists_star : ∃ before c signs, body = before ++ [c, .single '/'] ∧
    c.toList = signs ++ ['*'] ∧ text = Cluster.join before ++ signs ∧
    ∀ x, signs.getLast? = some x → BreakClass.of x = .prepend := by
  have split : Cluster.join body = (text ++ ['*']) ++ ['/'] := by simp [closed]
  obtain ⟨inner, last, chars, rfl, slash, joined⟩ := Cluster.exists_last split
  have joins {c : Cluster} (member : c ∈ inner ++ [last]) {before : List Char} {x d : Char}
      (ends : c.toList = before ++ [x] ++ [d]) : Joins x d := by
    have chain := formed c member
    rw [ends, List.append_assoc] at chain
    obtain ⟨_, pair, _⟩ := List.isChain_append.mp chain
    exact List.isChain_pair.mp pair
  -- a `*` is no sign, so the slash is alone
  have alone : chars = [] := by
    rcases List.eq_nil_or_concat' chars with rfl | ⟨chars, x, rfl⟩
    · rfl
    · rw [← List.append_assoc] at joined
      obtain ⟨_, same⟩ := List.append_inj' joined rfl
      cases same
      have prepend := (joins (by simp) slash).prepend (by decide) (by decide)
      exact absurd rfl (BreakClass.prepend_ne prepend).1
  subst alone
  rw [List.append_nil] at joined
  obtain ⟨before, c, signs, rfl, star, joined⟩ := Cluster.exists_last joined
  obtain rfl := Cluster.eq_single_of_toList slash
  refine ⟨before, c, signs, by simp, star, joined.symm, fun x ends => ?_⟩
  obtain ⟨signs, rfl⟩ := List.getLast?_eq_some_iff.mp ends
  exact (joins (by simp) star).prepend (by decide) (by decide)

/-- The text of a block comment is a run of its clusters just if the `*` of its end is one. -/
theorem exists_run_comment_iff :
    (∃ run, run <:+: Scan.word "/*" ++ body ∧ Cluster.join run = text) ↔
      ¬ SharesStar (Scan.word "/*" ++ body) := by
  obtain ⟨before, c, signs, rfl, star, rfl, prepends⟩ := exists_star formed closed
  have last : (Scan.word "/*" ++ (before ++ [c, .single '/'])).dropLast.getLast? = some c := by
    have split : Scan.word "/*" ++ (before ++ [c, .single '/']) =
        (Scan.word "/*" ++ before ++ [c]) ++ [.single '/'] := by simp
    rw [split, List.dropLast_concat, List.getLast?_concat]
  -- the star is a cluster just if there is no sign before it
  rcases List.eq_nil_or_concat' signs with rfl | ⟨signs, x, rfl⟩
  · obtain rfl := Cluster.eq_single_of_toList star
    refine iff_of_true ⟨before, ⟨Scan.word "/*", [.single '*', .single '/'], by simp⟩, by simp⟩ ?_
    rintro ⟨_, shared⟩
    exact shared last
  · obtain ⟨notStar, notSlash⟩ := BreakClass.prepend_ne (prepends x List.getLast?_concat)
    refine iff_of_false ?_ (not_not_intro ⟨List.prefix_append _ _, ?_⟩)
    · rintro ⟨run, ⟨left, right, split⟩, joined⟩
      rw [← List.append_assoc] at joined
      exact join_ne_of_sign star notStar notSlash split joined
    · rw [last]
      intro alone
      cases alone
      have size := congrArg List.length star
      simp at size

end BlockComment

/-! ## Literals and spans -/

/-- What is no block comment has nothing to share. -/
theorem exists_run_of_other {lexeme run : List Cluster} (within : run <:+: lexeme)
    (other : ¬ Scan.word "/*" <+: lexeme) :
    (∃ piece, piece <:+: lexeme ∧ Cluster.joinText piece = Cluster.joinText run) ↔
      ¬ SharesStar lexeme :=
  iff_of_true ⟨run, within, rfl⟩ fun shares => other shares.1

theorem Literal.exists_run_iff {cs : List Cluster} {scan : Scan} {token : Token} {size : Nat}
    {text : String} (literal : Literal cs scan) (accepted : scan = .accept token size)
    (carries : token.text? = some text) (formed : ∀ c ∈ cs, c.toList.IsChain Joins) :
    (∃ run, run <:+: cs.take size ∧ Cluster.joinText run = text) ↔ ¬ SharesStar (cs.take size) := by
  cases literal with
  | endOfInput | newLine | boolTrue | boolFalse | fraction =>
    cases accepted
    contradiction
  | prefixed | whole =>
    obtain ⟨_, n, rfl, _⟩ := Scan.integer_eq_accept accepted
    contradiction
  | openComment | emptyCharacter | crowdedCharacter | openString => contradiction
  | lineComment =>
    rename_i body
    cases accepted
    cases carries
    have lexeme : (Cluster.single '/' :: .single '/' :: body).take (body.length + 2) =
        .single '/' :: .single '/' :: body := List.take_of_length_le (Nat.le_refl _)
    rw [lexeme]
    refine exists_run_of_other ⟨[.single '/', .single '/'], [], by simp⟩ ?_
    simp [Scan.word]
  | blockComment closes =>
    rename_i body text size
    cases accepted
    cases carries
    have lexeme : (Cluster.single '/' :: .single '*' :: body).take (2 + size) =
        Scan.word "/*" ++ body.take size := by
      rw [Nat.add_comm]
      rfl
    have inside : ∀ c ∈ body.take size, c.toList.IsChain Joins := fun c member =>
      formed c (List.mem_cons_of_mem _ (List.mem_cons_of_mem _ (List.mem_of_mem_take member)))
    rw [lexeme, ← exists_run_comment_iff inside closes.closed]
    simp only [Cluster.joinText, String.ofList_inj]
  | character content =>
    rename_i c rest
    cases accepted
    cases carries
    rw [← Cluster.joinText_singleton]
    exact exists_run_of_other ⟨[.single '\''], [.single '\''], rfl⟩ (by simp [Scan.word])
  | string inside =>
    rename_i body rest
    cases accepted
    cases carries
    have lexeme : (Cluster.single '"' :: (body ++ .single '"' :: rest)).take (body.length + 2) =
        .single '"' :: body ++ [.single '"'] := by
      rw [List.take_succ_cons, List.take_length_add_append]
      rfl
    rw [lexeme]
    exact exists_run_of_other ⟨[.single '"'], [.single '"'], rfl⟩ (by simp [Scan.word])
  | flag letter inside stops =>
    rename_i c name rest
    cases accepted
    cases carries
    have lexeme : (Cluster.single '-' :: (c :: name ++ rest)).take (name.length + 2) =
        .single '-' :: c :: name := by simp
    rw [lexeme]
    exact exists_run_of_other ⟨[.single '-'], [], by simp⟩ (by simp [Scan.word])

theorem TokenSpan.Found.exists_run_iff {cs : List Cluster} {span : TokenSpan}
    (found : span.Found cs) (formed : ∀ c ∈ cs, c.toList.IsChain Joins) {text : String}
    (carries : span.token.text? = some text) :
    (∃ run, run <:+: span.lexeme cs ∧ Cluster.joinText run = text) ↔
      ¬ SharesStar (span.lexeme cs) := by
  obtain ⟨start, stop, token⟩ := span
  have finds : Finds cs start (.ok token) stop := found.finds
  cases finds with
  | token literal =>
    rw [TokenSpan.lexeme, between, Nat.add_sub_cancel_left]
    exact literal.exists_run_iff rfl carries fun c member => formed c (List.mem_of_mem_drop member)
  | undefined here none =>
    rename_i c
    cases carries
    rw [TokenSpan.lexeme, between_succ here, ← Cluster.joinText_singleton]
    refine exists_run_of_other List.infix_rfl fun comment => ?_
    have size := comment.length_le
    simp [Scan.word] at size

/-! ## Slices -/

theorem between_between {cs : List Cluster} {p q r : Nat} (ahead : p ≤ q) (behind : q ≤ r) :
    between cs p q ++ between cs q r = between cs p r := by
  obtain ⟨m, rfl⟩ := Nat.exists_eq_add_of_le ahead
  obtain ⟨n, rfl⟩ := Nat.exists_eq_add_of_le behind
  rw [between, between, between, Nat.add_sub_cancel_left, Nat.add_sub_cancel_left, Nat.add_assoc,
    Nat.add_sub_cancel_left, List.take_add, List.drop_drop]

/-- The slices within a span are the texts of the runs of its clusters. -/
theorem Source.exists_slice_iff {s : Source} {p q : Nat} (ordered : p ≤ q) (bound : q ≤ s.length)
    {text : String} :
    (∃ a b : Nat, p ≤ a ∧ a ≤ b ∧ b ≤ q ∧ s.slice a b = text) ↔
      ∃ run, run <:+: between s.clusters.toList p q ∧ Cluster.joinText run = text := by
  have slice {a n : Nat} (bound : a + n ≤ s.length) :
      s.slice a ((a + n : Nat) : Int) = Cluster.joinText (between s.clusters.toList a (a + n)) := by
    rw [slice_rest bound, between, Nat.add_sub_cancel_left, rest]
  constructor
  · rintro ⟨a, b, after, ahead, before, rfl⟩
    refine ⟨between s.clusters.toList a b, ⟨between s.clusters.toList p a,
      between s.clusters.toList b q, ?_⟩, ?_⟩
    · rw [between_between after ahead, between_between (Nat.le_trans after ahead) before]
    · obtain ⟨n, rfl⟩ := Nat.exists_eq_add_of_le ahead
      exact (slice (Nat.le_trans before bound)).symm
  · rintro ⟨run, ⟨left, right, split⟩, rfl⟩
    have size := congrArg List.length split
    simp only [between, List.length_append, List.length_take] at size
    have behind : s.clusters.toList.drop (p + left.length) =
        run ++ (right ++ s.clusters.toList.drop q) := by
      rw [← List.drop_drop, ← between_append ordered, ← split]
      simp
    refine ⟨p + left.length, p + left.length + run.length, by omega, by omega, by omega, ?_⟩
    rw [slice (by omega), between, Nat.add_sub_cancel_left, behind, List.take_left]

/-! ## The tokens of a text -/

/-- The tokens of a text that has no fault, and their spans.  The text that a token carries is a slice of
the text within its span, unless the span is a block comment whose end shares the cluster of its `*`, and
of such a comment it never is one. -/
theorem tokenize_text_iff {text : String} {tokens : List Token}
    (run : tokenize text {} true = .ok tokens) :
    ∃ lexer, Lexer.ofText text {} = .ok lexer ∧ ∃ spans : List TokenSpan,
      tokens = spans.map TokenSpan.token ++ [.endOfInput] ∧
      Partition (Cluster.ofText text) 0 spans ∧
      (∀ i span, spans[i]? = some span → (lexer.after (i + 1)).position = span.stop) ∧
      ∀ span ∈ spans, ∀ payload, span.token.text? = some payload →
        ((∃ a b : Nat, span.start ≤ a ∧ a ≤ b ∧ b ≤ span.stop ∧
            lexer.cursor.slice a b = payload) ↔
          ¬ SharesStar (span.lexeme (Cluster.ofText text))) := by
  obtain ⟨s, clusters, opened, spans, rfl, partition, places, found⟩ := exists_spans_of_tokenize run
  refine ⟨_, opened, spans, rfl, partition, places, fun span member payload carries => ?_⟩
  obtain ⟨_, ordered, bound⟩ := partition.inside span member
  have formed : ∀ c ∈ Cluster.ofText text, c.toList.IsChain Joins :=
    fun c member => Cluster.isChain_of_mem_segment member
  rw [← (found span member).exists_run_iff formed carries, TokenSpan.lexeme, ← clusters]
  rw [← clusters, Array.length_toList] at bound
  exact Source.exists_slice_iff (Nat.le_of_lt ordered) bound

theorem tokenize_text_iff_sign :
    ∃ lexer, Lexer.ofText "-a /*\u0600*/" {} = .ok lexer ∧ ∃ spans : List TokenSpan,
      [.flag "a", .comment "\u0600", .endOfInput] =
        spans.map TokenSpan.token ++ [.endOfInput] ∧
      Partition (Cluster.ofText "-a /*\u0600*/") 0 spans ∧
      (∀ i span, spans[i]? = some span → (lexer.after (i + 1)).position = span.stop) ∧
      ∀ span ∈ spans, ∀ payload, span.token.text? = some payload →
        ((∃ a b : Nat, span.start ≤ a ∧ a ≤ b ∧ b ≤ span.stop ∧
            lexer.cursor.slice a b = payload) ↔
          ¬ SharesStar (span.lexeme (Cluster.ofText "-a /*\u0600*/"))) :=
  tokenize_text_iff (by decide +kernel)

/-- The end of the first comment is found within a cluster, and the sign that is left of the cluster is no
slice of the text. -/
theorem tokenize_text_ne_slice :
    tokenize "/*\u0600*/*/" {} true =
        .ok [.comment "\u0600", .undefined "*", .undefined "/", .endOfInput] ∧
      ∃ lexer, Lexer.ofText "/*\u0600*/*/" {} = .ok lexer ∧
        ∀ a b : Nat, lexer.cursor.slice a b ≠ "\u0600" := by
  obtain ⟨s, clusters, _, opened⟩ :=
    Lexer.ofText_default (by decide : '\x00' ∉ "/*\u0600*/*/".toList)
  refine ⟨by decide +kernel, _, opened, fun a b => ?_⟩
  have six : (Cluster.ofText "/*\u0600*/*/").length = 6 := by decide +kernel
  have none : ∀ i ≤ 6, ∀ n ≤ 6,
      Cluster.joinText (((Cluster.ofText "/*\u0600*/*/").drop i).take n) ≠ "\u0600" := by
    decide +kernel
  have length : s.length = 6 := by rw [Source.length, ← Array.length_toList, clusters, six]
  have index (n : Nat) : s.sliceIndex n ≤ 6 := by
    simp only [Source.sliceIndex]
    split <;> omega
  have extracted : s.slice a b = Cluster.joinText
      (((Cluster.ofText "/*\u0600*/*/").drop (s.sliceIndex a)).take
        (s.sliceIndex b - s.sliceIndex a)) := by
    rw [Source.slice, Array.toList_extract, clusters, List.extract_eq_take_drop]
  have bound := index b
  exact extracted.trans_ne (none _ (index a) _ (by omega))

end LiteralLexer
