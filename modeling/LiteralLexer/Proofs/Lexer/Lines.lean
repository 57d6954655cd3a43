import LiteralLexer.Proofs.Lexer.Progress
import LiteralLexer.Proofs.Lexer.Whole
import LiteralLexer.Proofs.Literal.Separator
import LiteralLexer.Proofs.Segmentation

/-!
# Line by line

A text that stands on lines of its own is read as it is read alone: two texts with a line feed between
them have the tokens of the one, a newline and the tokens of the other, and what is wrong with the
second is reported where it stands in the whole (`tokenize_append_line`).

A step looks ahead, and the end of the first text is what it sees there; now it sees a line feed and
what is behind it.  Both end every literal that is open (`Reads.extend`), with one exception: a comment
that begins with `//` does not end with its line but with its text.
-/

namespace LiteralLexer

theorem Cluster.separator_lineFeed : Separator (single '\n') where
  notAlphanumeric := by decide
  notMark := by decide

/-! ## Steps before a separator -/

section Extend

variable {cs : List Cluster} {p q stop : Nat} {c : Cluster} (more : List Cluster)

/-- A text goes on with a cluster that is not blank. -/
theorem Skips.extend (skips : Skips cs p q) (solid : c.isWhitespace = false) :
    Skips (cs ++ c :: more) p q where
  ahead := skips.ahead
  within := by
    rw [List.length_append]
    exact Nat.le_trans skips.within (Nat.le_add_right _ _)
  blank i d after before here := by
    rw [List.getElem?_append_left (Nat.lt_of_lt_of_le before skips.within)] at here
    exact skips.blank i d after before here
  solid d here := by
    rcases Nat.lt_or_eq_of_le skips.within with inside | rfl
    · rw [List.getElem?_append_left inside] at here
      exact skips.solid d here
    · rw [List.getElem?_append_right (Nat.le_refl _), Nat.sub_self] at here
      cases here
      exact solid

variable {token : Token} (separator : c.Separator)

include separator

theorem Finds.extend (finds : Finds cs q (.ok token) stop) (within : q ≤ cs.length)
    (inner : token ≠ .endOfInput) (closed : ¬ Scan.word "//" <+: cs.drop q) :
    Finds (cs ++ c :: more) q (.ok token) stop := by
  have ahead : (cs ++ c :: more).drop q = cs.drop q ++ c :: more :=
    List.drop_append_of_le_length within
  cases finds with
  | token literal =>
    refine .token ?_
    rw [ahead]
    exact literal.extend separator rfl inner closed more
  | undefined here none =>
    refine .undefined ?_ ?_
    · rw [List.getElem?_append_left (List.getElem?_eq_some_iff.mp here).1, here]
    · rw [ahead]
      exact Literal.none_extend separator none more

theorem Reads.extend (reads : Reads cs p (.ok token) stop) (solid : c.isWhitespace = false)
    (inner : token ≠ .endOfInput)
    (closed : ∀ q, Skips cs p q → ¬ Scan.word "//" <+: cs.drop q) :
    Reads (cs ++ c :: more) p (.ok token) stop := by
  obtain ⟨q, skips, finds⟩ := reads
  exact ⟨q, skips.extend more solid,
    finds.extend more separator skips.within inner (closed q skips)⟩

end Extend

/-! ## Comments up to the end of the text -/

namespace Lexer

/-- The next literal is a comment that runs up to the end of the text. -/
def AtLineComment (l : Lexer) : Prop :=
  ∃ p q : Nat, l.position = p ∧ Skips l.cursor.source.clusters.toList p q ∧
    Scan.word "//" <+: l.cursor.source.clusters.toList.drop q

variable {s : Source} {p : Nat}

theorem atLineComment_running {ts : List Transform} :
    (running ts s p).AtLineComment ↔
      ∃ q, Skips s.clusters.toList p q ∧ Scan.word "//" <+: s.clusters.toList.drop q := by
  constructor
  · rintro ⟨p, q, place, comment⟩
    cases Int.ofNat_inj.mp place
    exact ⟨q, comment⟩
  · rintro ⟨q, comment⟩
    exact ⟨p, q, rfl, comment⟩

theorem nextToken_of_atLineComment (inert : s.sentinel.Inert) (bound : p ≤ s.length)
    (opens : (running Transform.defaultOrder s p).AtLineComment) :
    ∃ text, (running Transform.defaultOrder s p).nextToken.1 = .ok (.comment text) := by
  obtain ⟨q, skips, body, split⟩ := atLineComment_running.mp opens
  obtain ⟨outcome, stop, step, reads⟩ := exists_reads inert bound
  have literal : Literal (Scan.word "//" ++ body) _ := .lineComment
  rw [split] at literal
  obtain ⟨rfl, rfl⟩ := reads.unique ⟨q, skips, .token literal⟩
  exact ⟨_, by rw [step]⟩

/-- A step that delivers a token leads to another place of the text. -/
theorem exists_place (inert : s.sentinel.Inert) (bound : p ≤ s.length) {next : Lexer}
    {token : Token} (step : (running Transform.defaultOrder s p).nextToken = (.ok token, next))
    (inner : token ≠ .endOfInput) :
    ∃ stop ≤ s.length, next = running Transform.defaultOrder s stop ∧
      Reads s.clusters.toList p (.ok token) stop := by
  obtain ⟨outcome, stop, stepped, reads⟩ := exists_reads inert bound
  rw [stepped] at step
  cases step
  obtain ⟨_, _, _, within, _⟩ := reads.exists_span inner
  exact ⟨stop, within, rfl, reads⟩

/-- A run without comments has no comment that runs up to the end of the text. -/
theorem Delivers.not_atLineComment (inert : s.sentinel.Inert) {l last : Lexer}
    {tokens : List Token} (delivers : Delivers l tokens last)
    (final : last.nextToken.1 = .ok .endOfInput) (bound : p ≤ s.length)
    (place : l = running Transform.defaultOrder s p)
    (without : ∀ token ∈ tokens, token.isComment = false) (n : Nat) :
    ¬ (l.after n).AtLineComment := by
  intro opens
  induction delivers generalizing p n with
  | nil =>
    subst place
    have noticed : Transform.endOfInput ∈ Transform.defaultOrder := by decide
    obtain ⟨next, step⟩ : ∃ next, (running Transform.defaultOrder s p).nextToken =
        (.ok .endOfInput, next) := ⟨_, Prod.ext final rfl⟩
    cases n with
    | zero =>
      obtain ⟨text, comment⟩ := nextToken_of_atLineComment inert bound opens
      rw [step] at comment
      cases comment
    | succ n =>
      -- from the end of the text on, nothing else is found
      rw [after, step, eq_running_of_endOfInput inert noticed (Nat.le_succ_of_le bound) step,
        after_final inert noticed] at opens
      obtain ⟨text, comment⟩ := nextToken_of_atLineComment inert (Nat.le_refl _) opens
      rw [nextToken_final inert noticed] at comment
      cases comment
  | cons step inner rest ih =>
    subst place
    obtain ⟨first, others⟩ := List.forall_mem_cons.mp without
    cases n with
    | zero =>
      obtain ⟨text, comment⟩ := nextToken_of_atLineComment inert bound opens
      rw [step] at comment
      cases comment
      contradiction
    | succ n =>
      obtain ⟨stop, within, place, _⟩ := exists_place inert bound step inner
      rw [after, step] at opens
      exact ih final within place others n opens

/-- The tokens of a text are delivered in the same way if a line follows it. -/
theorem Delivers.tokenizes_line (inert : s.sentinel.Inert) {l last : Lexer}
    {tokens : List Token} (delivers : Delivers l tokens last)
    (final : last.nextToken.1 = .ok .endOfInput) (bound : p ≤ s.length)
    (place : l = running Transform.defaultOrder s p)
    (closed : ∀ n, ¬ (l.after n).AtLineComment) {more : List Cluster}
    {result : Except LexFailure (List Token)}
    (follows : Tokenizes (s.clusters.toList ++ .single '\n' :: more) (s.length + 1) result) :
    Tokenizes (s.clusters.toList ++ .single '\n' :: more) p
      (result.map (tokens ++ .newLine :: ·)) := by
  induction delivers generalizing p with
  | nil =>
    subst place
    obtain ⟨outcome, stop, step, reads⟩ := exists_reads inert bound
    rw [step] at final
    subst final
    -- the blanks at the end of the text are now those before the line feed
    have skips := reads.skips_all.extend (c := .single '\n') more (by decide)
    have literal : Literal (.single '\n' :: more) (.accept .newLine 1) := .newLine (by decide)
    have ahead : (s.clusters.toList ++ .single '\n' :: more).drop s.clusters.toList.length =
        .single '\n' :: more := List.drop_left
    rw [← ahead] at literal
    exact .token ⟨_, skips, .token literal⟩ (by simp) follows
  | cons step inner rest ih =>
    rename_i token tokens
    subst place
    obtain ⟨stop, within, rfl, reads⟩ := exists_place inert bound step inner
    have others (n : Nat) : ¬ ((running Transform.defaultOrder s stop).after n).AtLineComment := by
      have later := closed (n + 1)
      rwa [after, step] at later
    have first (q : Nat) (skips : Skips s.clusters.toList p q) :
        ¬ Scan.word "//" <+: s.clusters.toList.drop q :=
      fun opens => closed 0 (atLineComment_running.mpr ⟨q, skips, opens⟩)
    have assoc (result : Except LexFailure (List Token)) :
        result.map (token :: tokens ++ .newLine :: ·) =
          (result.map (tokens ++ .newLine :: ·)).map (token :: ·) := by
      cases result <;> rfl
    rw [assoc]
    exact .token (reads.extend more Cluster.separator_lineFeed (by decide) inner first) inner
      (ih final within rfl others)

end Lexer

/-! ## Whole texts -/

/-- Some step over a text finds a comment that runs up to its end. -/
def HasLineComment (text : String) : Prop :=
  ∃ lexer n, Lexer.ofText text {} = .ok lexer ∧ (lexer.after n).AtLineComment

/-- A text whose tokens have no comment among them has no comment that runs up to its end. -/
theorem not_hasLineComment {text : String} {tokens : List Token}
    (run : tokenize text {} true = .ok tokens)
    (without : tokens.all (!·.isComment) = true) : ¬ HasLineComment text := by
  rintro ⟨lexer, n, reopened, opens⟩
  obtain ⟨s, inner, clusters, sentinel, opened, delivered, rfl⟩ := exists_of_tokenize run
  obtain ⟨inner, last, rfl, delivers, final⟩ := Lexer.exists_delivers delivered
  rw [opened] at reopened
  cases reopened
  have inert : s.sentinel.Inert := sentinel ▸ Cluster.inert_nul
  refine delivers.not_atLineComment inert final (Nat.zero_le _) rfl (fun token member => ?_) n opens
  have plain := List.all_eq_true.mp without token (List.mem_append_left _ member)
  simpa using plain

/-- Two texts with a line feed between them have the tokens of the one, a newline and the tokens of the
other.  A fault of the second is the same fault, as many lines and clusters further on as the first text
and the line feed take up. -/
theorem tokenize_append_line {text more : String} {tokens : List Token}
    (unreturned : text.toList.getLast? ≠ some '\r') (absent : '\x00' ∉ text.toList)
    (missing : '\x00' ∉ more.toList) (run : tokenize text {} true = .ok tokens)
    (closed : ¬ HasLineComment text) :
    (∀ others, tokenize more {} true = .ok others →
      tokenize (text ++ "\n" ++ more) {} true = .ok (tokens.dropLast ++ .newLine :: others)) ∧
    ∀ found, tokenize more {} true = .error (.malformed found) →
      tokenize (text ++ "\n" ++ more) {} true = .error (.malformed { found with
        location := {
          line := found.location.line + (Cluster.ofText text).countP Cluster.isNewline + 1
          column := found.location.column
          offset := found.location.offset + (Cluster.ofText text).length + 1 } }) := by
  obtain ⟨s, inner, clusters, sentinel, opened, delivered, rfl⟩ := exists_of_tokenize run
  obtain ⟨inner, last, rfl, delivers, final⟩ := Lexer.exists_delivers delivered
  have inert : s.sentinel.Inert := sentinel ▸ Cluster.inert_nul
  have quiet (n : Nat) : ¬ ((Lexer.running Transform.defaultOrder s 0).after n).AtLineComment :=
    fun opens => closed ⟨_, n, opened, opens⟩
  -- the second text is read as it is alone, from the line behind the first text on
  have follows := (tokenizes_tokenize missing).behind (s.clusters.toList ++ [.single '\n'])
  rw [List.append_assoc, List.singleton_append, List.length_append, List.length_singleton] at follows
  have whole := delivers.tokenizes_line inert final (Nat.zero_le _) rfl quiet follows
  rw [clusters, ← Cluster.ofText_append_lineFeed unreturned] at whole
  have together : '\x00' ∉ (text ++ "\n" ++ more).toList := by simp [absent, missing]
  have unfiltered : filterComments true (inner ++ [.endOfInput]) = inner ++ [.endOfInput] := rfl
  rw [whole.tokenize together, unfiltered, List.dropLast_concat]
  constructor
  · intro others read
    rw [read]
    rfl
  · intro found fails
    have newline : (Cluster.single '\n').isNewline = true := by decide
    rw [fails, mapError_error, LexFailure.behind, Location.behind_newline_plus _ newline]
    rfl

/-- A quote that is not closed is found on the third line, and two slashes in a string do no harm. -/
theorem tokenize_append_line_quote :
    tokenize ("\"//\"\n" ++ "\n" ++ " \"") {} true =
      .error (.malformed { fault := .unterminatedString, location := ⟨3, 2, 7⟩ }) := by
  have run : tokenize "\"//\"\n" {} true =
      .ok [.uninterpolatedString "//", .newLine, .endOfInput] := by decide +kernel
  have closed := not_hasLineComment run (by decide)
  have missing : '\x00' ∉ " \"".toList := by decide
  have lines := tokenize_append_line (by decide) (by decide) missing run closed
  have fails : tokenize " \"" {} true =
      .error (.malformed { fault := .unterminatedString, location := ⟨1, 2, 1⟩ }) := by
    decide +kernel
  have size : (Cluster.ofText "\"//\"\n").length = 5 := by decide +kernel
  have newlines : (Cluster.ofText "\"//\"\n").countP Cluster.isNewline = 1 := by decide +kernel
  have whole := lines.2 _ fails
  rwa [size, newlines] at whole

end LiteralLexer
