import LiteralLexer.Proofs.Juncture
import LiteralLexer.Proofs.Lexer.Partition
import LiteralLexer.Proofs.Number.Grammar

/-!
# Layout within literals

Blanks and ends of lines separate literals: no boolean, number or single cluster that no literal begins
with has one in it (`tokenize_separated`).  Comments, strings and characters may have any cluster in them.
Flags are in between.  A cluster in which a line ends belongs to no name, but a space may carry a mark, and
then it is a blank where a literal is looked for, and a letter where a name goes on.
-/

namespace LiteralLexer

/-- The cluster is whitespace or ends a line. -/
def Cluster.isLayout (c : Cluster) : Bool := c.isWhitespace || c.isNewline

/-! ## Numbers and words -/

theorem Radix.not_isLayout {radix : Radix} {c : Cluster} (continues : radix.continues c = true) :
    c.isLayout = false := by
  have all : ∀ radix : Radix, ∀ c ∈ radix.alphabet, c.isLayout = false := by
    intro radix
    cases radix <;> decide
  exact all radix c (mem_alphabet_iff.mpr continues)

theorem not_isLayout_sign (negative : Bool) : ∀ c ∈ sign negative, c.isLayout = false := by
  cases negative <;> decide

theorem Radix.not_isLayout_mark (radix : Radix) : ∀ c ∈ radix.mark, c.isLayout = false := by
  cases radix <;> decide

/-- The kinds of tokens whose literals may have any cluster in them, or are the end of a line. -/
def TokenKind.withLayout : List TokenKind := [.newLine, .comment, .character, .uninterpolatedString]

/-- Where there is layout in a lexeme, its literal is open to it, or it is a flag and the layout a letter,
or it is no literal. -/
theorem Spells.layout {final : Prop} {token : Token} {lexeme : List Cluster}
    (spells : Spells final token lexeme) {c : Cluster} (member : c ∈ lexeme)
    (layout : c.isLayout = true) :
    token.kind ∈ TokenKind.withLayout ∨ (token.kind = .flag ∧ c.isAlphanumeric = true) ∨
      token.kind = .undefined := by
  -- the clusters of a number or a word are known, and none of them is layout
  have outside {run : List Cluster} (solid : ∀ c ∈ run, c.isLayout = false) : c ∉ run := by
    intro member
    rw [solid c member] at layout
    contradiction
  have ne {d : Cluster} (solid : d.isLayout = false) : c ≠ d := by
    rintro rfl
    rw [solid] at layout
    contradiction
  cases spells with
  | newLine | lineComment | blockComment | character | string => exact .inl (by simp [Token.kind, TokenKind.withLayout])
  | undefined => exact .inr (.inr rfl)
  | boolean value =>
    refine absurd member (outside ?_)
    cases value <;> decide
  | integer negative begins inside value =>
    rename_i radix run n
    have signed := outside (not_isLayout_sign negative)
    have marked := outside radix.not_isLayout_mark
    have digits := outside fun c member => Radix.not_isLayout (inside c member)
    simp [signed, marked, digits] at member
  | floatingPoint negative digit inside unseparated follows within =>
    rename_i d e run more
    have signed := outside (not_isLayout_sign negative)
    have before := outside fun c member => Radix.not_isLayout (inside c member)
    have behind := outside fun c member => Radix.not_isLayout (within c member)
    have first := ne (Radix.not_isLayout (continues_of_isDigit digit))
    have second := ne (Radix.not_isLayout (continues_of_isDigit follows))
    have point := ne (d := .single '.') (by decide)
    simp [signed, before, behind, first, second, point] at member
  | flag letter inside =>
    refine .inr (.inl ⟨rfl, ?_⟩)
    have dash := ne (d := .single '-') (by decide)
    rcases List.mem_cons.mp member with same | name
    · exact absurd same dash
    · rcases List.mem_cons.mp name with rfl | later
      · exact Cluster.isAlphanumeric_of_isLetter letter
      · exact inside c later

/-- What a span begins with is no blank, and ends a line just if the token says so. -/
theorem TokenSpan.Found.first {cs : List Cluster} {span : TokenSpan} (found : span.Found cs)
    {c : Cluster} (here : cs[span.start]? = some c) (other : span.token ≠ .newLine) :
    c.isLayout = false := by
  have notNewline : c.isNewline = false := by
    refine Bool.eq_false_iff.mpr fun newline => other ?_
    have begins : cs.drop span.start = c :: cs.drop (span.start + 1) := by
      obtain ⟨inside, rfl⟩ := List.getElem?_eq_some_iff.mp here
      exact List.drop_eq_getElem_cons inside
    have literal : Literal (cs.drop span.start) (.accept .newLine 1) := by
      rw [begins]
      exact .newLine newline
    exact Except.ok.inj (found.finds.unique (.token literal)).1
  rw [Cluster.isLayout, found.solid c here, notNewline]
  rfl

theorem Spells.eq_of_undefined {final : Prop} {token : Token} {lexeme : List Cluster}
    (spells : Spells final token lexeme) (kind : token.kind = .undefined) :
    ∃ c, lexeme = [c] := by
  cases spells with
  | undefined => exact ⟨_, rfl⟩
  | _ => contradiction

/-! ## The tokens of a text -/

/-- The tokens of a text that has no fault, and their spans.  Whitespace and ends of lines lie outside the
spans, or within the end of a line, a comment, a string or a character.  A flag may have whitespace in it
that is a letter or a number as well. -/
theorem tokenize_separated {text : String} {tokens : List Token}
    (run : tokenize text {} true = .ok tokens) :
    ∃ lexer, Lexer.ofText text {} = .ok lexer ∧ ∃ spans : List TokenSpan,
      tokens = spans.map TokenSpan.token ++ [.endOfInput] ∧
      Partition (Cluster.ofText text) 0 spans ∧
      (∀ i span, spans[i]? = some span → (lexer.after (i + 1)).position = span.stop) ∧
      ∀ span ∈ spans, ∀ c ∈ span.lexeme (Cluster.ofText text),
        c.isWhitespace = true ∨ c.isNewline = true →
          span.token.kind ∈ TokenKind.withLayout ∨
            (span.token.kind = .flag ∧ c.isNewline = false ∧ c.isAlphanumeric = true) := by
  obtain ⟨s, _, opened, spans, rfl, partition, places, found⟩ := exists_spans_of_tokenize run
  refine ⟨_, opened, spans, rfl, partition, places, fun span member c inside layout => ?_⟩
  have spells := partition.spelled span member
  rcases spells.layout inside ((Bool.or_eq_true _ _).mpr layout) with free | ⟨flag, letter⟩ | none
  · exact .inl free
  · have formed : c ∈ Cluster.ofText text := List.mem_of_mem_drop (List.mem_of_mem_take inside)
    refine .inr ⟨flag, Bool.eq_false_iff.mpr fun newline => ?_, letter⟩
    rw [Cluster.not_isAlphanumeric_of_isNewline formed newline] at letter
    contradiction
  · -- the cluster that no literal begins with is the first of its span
    obtain ⟨d, lexeme⟩ := spells.eq_of_undefined none
    rw [lexeme] at inside
    obtain rfl := List.mem_singleton.mp inside
    obtain ⟨rest, split⟩ : [c] <+: (Cluster.ofText text).drop span.start :=
      lexeme ▸ List.take_prefix _ _
    have here : (Cluster.ofText text)[span.start]? = some c := by
      rw [← List.head?_drop, ← split]
      rfl
    have other : span.token ≠ .newLine := by
      intro newLine
      rw [newLine] at none
      contradiction
    have solid := (found span member).first here other
    rw [Cluster.isLayout, (Bool.or_eq_true _ _).mpr layout] at solid
    contradiction

theorem tokenize_separated_families :
    ∃ lexer, Lexer.ofText "0x1f -a ' '\n" {} = .ok lexer ∧ ∃ spans : List TokenSpan,
      [.integer 31, .flag "a", .character " ", .newLine, .endOfInput] =
        spans.map TokenSpan.token ++ [.endOfInput] ∧
      Partition (Cluster.ofText "0x1f -a ' '\n") 0 spans ∧
      (∀ i span, spans[i]? = some span → (lexer.after (i + 1)).position = span.stop) ∧
      ∀ span ∈ spans, ∀ c ∈ span.lexeme (Cluster.ofText "0x1f -a ' '\n"),
        c.isWhitespace = true ∨ c.isNewline = true →
          span.token.kind ∈ TokenKind.withLayout ∨
            (span.token.kind = .flag ∧ c.isNewline = false ∧ c.isAlphanumeric = true) :=
  tokenize_separated (by decide +kernel)

theorem Spells.exists_of_flag {final : Prop} {name : String} {lexeme : List Cluster}
    (spells : Spells final (.flag name) lexeme) :
    ∃ run, lexeme = .single '-' :: run ∧ Cluster.joinText run = name := by
  generalize flag : Token.flag name = token at spells
  cases spells with
  | flag =>
    cases flag
    exact ⟨_, rfl, rfl⟩
  | _ => contradiction

/-- A space that carries a mark goes on with a flag, although it is whitespace. -/
theorem tokenize_flag_whitespace :
    tokenize "-a \u0301" {} true = .ok [.flag "a \u0301", .endOfInput] ∧
      ∀ spans : List TokenSpan,
        [.flag "a \u0301", .endOfInput] = spans.map TokenSpan.token ++ [.endOfInput] →
        Partition (Cluster.ofText "-a \u0301") 0 spans →
        ∃ span ∈ spans, span.token.kind = .flag ∧
          ∃ c ∈ span.lexeme (Cluster.ofText "-a \u0301"), c.isWhitespace = true := by
  refine ⟨by decide +kernel, fun spans tokens partition => ?_⟩
  obtain ⟨span, rfl, flag⟩ : ∃ span, spans = [span] ∧ span.token = .flag "a \u0301" := by
    have split : [Token.flag "a \u0301"] ++ [.endOfInput] =
        spans.map TokenSpan.token ++ [.endOfInput] := tokens
    obtain ⟨front, _⟩ := List.append_inj' split rfl
    exact List.map_eq_singleton_iff.mp front.symm
  have spells := partition.spelled span List.mem_cons_self
  rw [flag] at spells
  obtain ⟨run, lexeme, name⟩ := spells.exists_of_flag
  have space : ' ' ∈ Cluster.join run := by
    have chars := congrArg String.toList name
    rw [Cluster.joinText, String.toList_ofList] at chars
    rw [chars]
    decide
  obtain ⟨c, member, inside⟩ := List.mem_flatMap.mp space
  refine ⟨span, List.mem_cons_self, by rw [flag]; rfl, c, ?_, ?_⟩
  · rw [lexeme]
    exact List.mem_cons_of_mem _ member
  · exact List.any_eq_true.mpr ⟨' ', inside, by decide⟩

end LiteralLexer
