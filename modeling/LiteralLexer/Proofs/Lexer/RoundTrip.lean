import LiteralLexer.Proofs.Lexer.Lines
import LiteralLexer.Proofs.Lexer.Numeral

/-!
# Writing tokens down

`Token.spelling` writes a token as it stands in a text.  Tokens that are written one after another, with
blanks between them, are the tokens that are read (`tokenize_spelling`), whatever kinds of tokens meet.

A spelling is a *chunk*: a piece of text that is one token when it stands alone.  A blank keeps chunks
apart, since nothing but a comment up to the end of the text reads over it (`Finds.extend`).
-/

namespace LiteralLexer

/-- A token as it stands in a text.  Two kinds of tokens are not written: a floating-point number has no
spelling of its own, and the end of the text is no part of it. -/
def Token.spelling : Token → String
  | .newLine => "\n"
  | .comment body => "/*" ++ body ++ "*/"
  | .boolean value => toString value
  | .integer value => toString value
  | .character value => "'" ++ value ++ "'"
  | .uninterpolatedString value => "\"" ++ value ++ "\""
  | .flag name => "-" ++ name
  | .undefined value => value
  | .floatingPoint _ | .endOfInput => ""

/-- The tokens that can be written down: their payload is legible, does not close its own delimiters, and
stands for no other token. -/
inductive Spellable : Token → Prop where
  | newLine : Spellable .newLine
  | comment {body : String} (legible : LegibleText body)
      (unclosed : ¬ ['*', '/'] <:+: body.toList) : Spellable (.comment body)
  | boolean (value : Bool) : Spellable (.boolean value)
  | integer {value : Int} (fits : -0x8000000000000000 ≤ value ∧ value ≤ 0x7fffffffffffffff) :
      Spellable (.integer value)
  | character {c : Char} (legible : Legible c) (content : c ≠ '\'') :
      Spellable (.character (String.singleton c))
  | string {value : String} (legible : LegibleText value)
      (inside : '"' ∉ value.toList) : Spellable (.uninterpolatedString value)
  | flag {c : Char} {name : List Char} (letter : c.isAlpha = true)
      (alphanum : ∀ d ∈ name, d.isAlphanum = true) :
      Spellable (.flag (String.ofList (c :: name)))
  | undefined {c : Char} (legible : Legible c) (unclaimed : c ∉ [' ', '\t', '\'', '"'])
      (inline : Unicode.isNewline c = false) (notDigit : c.isDigit = false) :
      Spellable (.undefined (String.singleton c))

/-! ## Chunks -/

/-- Clusters that are one token. -/
structure Chunk (token : Token) (cs : List Cluster) : Prop where
  finds : Finds cs 0 (.ok token) cs.length
  inner : token ≠ .endOfInput
  solid : ∃ c rest, cs = c :: rest ∧ c.isWhitespace = false
  closed : ¬ Scan.word "//" <+: cs

theorem Literal.not_lineComment {cs : List Cluster} {token : Token} {size : Nat}
    (literal : Literal cs (.accept token size)) (other : token.isComment = false) :
    ¬ Scan.word "//" <+: cs := by
  rintro ⟨body, rfl⟩
  cases literal.unique .lineComment
  contradiction

/-- A literal that takes up its text is a chunk. -/
theorem Literal.chunk {c : Cluster} {rest : List Cluster} {token : Token}
    (literal : Literal (c :: rest) (.accept token (rest.length + 1)))
    (solid : c.isWhitespace = false) (other : token.isComment = false) :
    Chunk token (c :: rest) where
  finds := literal.finds
  inner := by
    rintro rfl
    exact List.cons_ne_nil c rest (literal.eq_nil_of_endOfInput rfl)
  solid := ⟨c, rest, rfl, solid⟩
  closed := literal.not_lineComment other

theorem Cluster.separator_space : Separator (single ' ') where
  notAlphanumeric := by decide
  notMark := by decide

theorem Chunk.tokenizes {token : Token} {cs : List Cluster} (chunk : Chunk token cs) :
    Tokenizes cs 0 (.ok [token, .endOfInput]) := by
  obtain ⟨c, rest, rfl, solid⟩ := chunk.solid
  exact chunk.finds.tokenizes chunk.inner (stops_cons.mpr solid)

/-- A blank keeps a chunk apart from what follows. -/
theorem Chunk.tokenizes_append {token : Token} {cs more : List Cluster} {tokens : List Token}
    (chunk : Chunk token cs) (rest : Tokenizes more 0 (.ok tokens)) :
    Tokenizes (cs ++ .single ' ' :: more) 0 (.ok (token :: tokens)) := by
  have finds :=
    chunk.finds.extend more Cluster.separator_space (Nat.zero_le _) chunk.inner chunk.closed
  have solid : Stops Cluster.isWhitespace (cs ++ .single ' ' :: more) := by
    obtain ⟨c, rest, rfl, solid⟩ := chunk.solid
    exact stops_cons.mpr solid
  -- the rest begins behind the blank, and the step after the chunk before it
  have behind := rest.behind (cs ++ [.single ' '])
  rw [List.append_assoc, List.singleton_append, List.length_append, List.length_singleton] at behind
  have here : (cs ++ .single ' ' :: more)[cs.length]? = some (.single ' ') := by simp
  have after := behind.blank_cons here (by decide)
  exact .token ⟨0, .stay (Nat.zero_le _) solid, finds⟩ chunk.inner after

/-! ## Spellings -/

theorem Scan.word_append (text more : String) : word (text ++ more) = word text ++ word more := by
  simp [word]

/-- A comment ends with the delimiter behind its text if there is none inside. -/
theorem ClosesAt.of_word {body : List Char} (unclosed : ¬ ['*', '/'] <:+: body) :
    ClosesAt ((body ++ ['*', '/']).map .single) body (body.length + 2) where
  le_length := by simp
  closed := by
    rw [List.take_of_length_le (by simp), Cluster.join_map_single]
  first n smaller ends := by
    rw [← List.map_take, Cluster.join_map_single] at ends
    rcases Nat.lt_or_ge body.length n with beyond | within
    · -- the last character is the first one of the delimiter
      have last : n = body.length + 1 := by omega
      have taken : (body ++ ['*', '/']).take (body.length + 1) = body ++ ['*'] :=
        List.take_length_add_append 1
      rw [last, taken] at ends
      obtain ⟨text, split⟩ := ends
      have same := congrArg List.getLast? split
      simp at same
    · rw [List.take_append_of_le_length within] at ends
      exact unclosed (ends.isInfix.trans (List.take_prefix n body).isInfix)

theorem chunk_comment {body : String} (unclosed : ¬ ['*', '/'] <:+: body.toList) :
    Chunk (.comment body) (Scan.word ("/*" ++ body ++ "*/")) := by
  have split : Scan.word ("/*" ++ body ++ "*/") =
      .single '/' :: .single '*' :: (body.toList ++ ['*', '/']).map .single := by
    simp [Scan.word]
  have literal := Literal.blockComment (ClosesAt.of_word unclosed)
  rw [String.ofList_toList] at literal
  have size : 2 + (body.toList.length + 2) =
      (Cluster.single '/' :: .single '*' :: (body.toList ++ ['*', '/']).map .single).length := by
    simp
    omega
  rw [size] at literal
  rw [split]
  exact ⟨literal.finds, by simp, ⟨_, _, rfl, by decide⟩, by simp [Scan.word]⟩

theorem chunk_integer {value : Int}
    (fits : -0x8000000000000000 ≤ value ∧ value ≤ 0x7fffffffffffffff) :
    Chunk (.integer value) (Scan.word (toString value)) := by
  have literal := (Numeral.decimal value).literal
  rw [if_pos (Recognizer.fitsInt64_iff.mpr fits)] at literal
  rw [Numeral.word_toString]
  obtain ⟨c, rest, split⟩ := List.exists_cons_of_ne_nil (Numeral.decimal value).clusters_ne_nil
  have printed := (Numeral.decimal value).printed_of_mem (split ▸ List.mem_cons_self)
  rw [split] at literal ⊢
  exact literal.chunk printed.solid rfl

theorem chunk_character {c : Char} (content : c ≠ '\'') :
    Chunk (.character (String.singleton c)) (Scan.word ("'" ++ String.singleton c ++ "'")) := by
  have split : Scan.word ("'" ++ String.singleton c ++ "'") =
      [.single '\'', .single c, .single '\''] := by
    simp [Scan.word]
  have other : Cluster.single c ≠ .single '\'' := by simpa using content
  have literal : Literal [.single '\'', .single c, .single '\''] _ := .character other
  have value : (Cluster.single c).text = String.singleton c := String.singleton_eq_ofList.symm
  rw [value] at literal
  rw [split]
  exact literal.chunk (by decide) rfl

theorem chunk_string {value : String} (inside : '"' ∉ value.toList) :
    Chunk (.uninterpolatedString value) (Scan.word ("\"" ++ value ++ "\"")) := by
  have split : Scan.word ("\"" ++ value ++ "\"") =
      .single '"' :: (Scan.word value ++ [.single '"']) := by
    simp [Scan.word]
  have content : Cluster.single '"' ∉ Scan.word value := by
    simpa [Scan.word] using inside
  have literal : Literal (.single '"' :: (Scan.word value ++ [.single '"'])) _ := .string content
  rw [Cluster.joinText_word] at literal
  rw [split]
  refine Literal.chunk ?_ (by decide) rfl
  simpa using literal

theorem chunk_flag {c : Char} {name : List Char} (letter : c.isAlpha = true)
    (alphanum : ∀ d ∈ name, d.isAlphanum = true) :
    Chunk (.flag (String.ofList (c :: name))) (Scan.word ("-" ++ String.ofList (c :: name))) := by
  have split : Scan.word ("-" ++ String.ofList (c :: name)) =
      .single '-' :: .single c :: name.map .single := by
    simp [Scan.word]
  have begins : (Cluster.single c).isLetter = true := Cluster.isLetter_of_isAlpha letter
  have inside : ∀ d ∈ name.map Cluster.single, d.isAlphanumeric = true := by
    intro d member
    obtain ⟨char, named, rfl⟩ := List.mem_map.mp member
    exact Cluster.isAlphanumeric_of_head (alphanum char named)
  have literal := Literal.flag begins inside stops_nil
  have value : Cluster.joinText (.single c :: name.map .single) = String.ofList (c :: name) := by
    rw [← List.map_cons, Cluster.joinText, Cluster.join_map_single]
  rw [value, List.append_nil] at literal
  rw [split]
  exact literal.chunk (by decide) rfl

theorem chunk_undefined {c : Char} (legible : Legible c) (unclaimed : c ∉ [' ', '\t', '\'', '"'])
    (inline : Unicode.isNewline c = false) (notDigit : c.isDigit = false) :
    Chunk (.undefined (String.singleton c)) (Scan.word (String.singleton c)) := by
  have single : Scan.word (String.singleton c) = [.single c] := by simp [Scan.word]
  have value : (Cluster.single c).text = String.singleton c := String.singleton_eq_ofList.symm
  simp only [List.mem_cons, List.not_mem_nil, or_false, not_or] at unclaimed
  obtain ⟨space, tab, quote, quotes⟩ := unclaimed
  have none := Literal.none_single (c := .single c) (by simpa [Cluster.isNewline] using inline)
    notDigit (by simp [quote, quotes])
  have solid : (Cluster.single c).isWhitespace = false := by
    simp [Cluster.isWhitespace, Unicode.isWhitespace, legible.ascii, space, tab]
  have finds : Finds [.single c] 0 (.ok (.undefined (Cluster.single c).text)) 1 :=
    .undefined rfl none
  rw [single, ← value]
  exact ⟨finds, by simp, ⟨_, _, rfl, solid⟩, by simp [Scan.word]⟩

theorem Spellable.chunk {token : Token} (spellable : Spellable token) :
    Chunk token (Scan.word token.spelling) := by
  cases spellable with
  | newLine => exact Literal.chunk (.newLine (by decide)) (by decide) rfl
  | comment legible unclosed => exact chunk_comment unclosed
  | boolean value =>
    cases value with
    | true => exact Literal.chunk (@Literal.boolTrue []) (by decide) rfl
    | false => exact Literal.chunk (@Literal.boolFalse []) (by decide) rfl
  | integer fits => exact chunk_integer fits
  | character legible content => exact chunk_character content
  | string legible inside => exact chunk_string inside
  | flag letter alphanum => exact chunk_flag letter alphanum
  | undefined legible unclaimed inline notDigit =>
    exact chunk_undefined legible unclaimed inline notDigit

theorem Spellable.legible {token : Token} (spellable : Spellable token) :
    LegibleText token.spelling := by
  cases spellable with
  | newLine => decide
  | comment legible => exact (LegibleText.append (by decide) legible).append (by decide)
  | boolean value => cases value <;> decide
  | integer fits =>
    rename_i value
    have legible := (Numeral.decimal value).legible_text
    rwa [Numeral.text_decimal] at legible
  | character legible =>
    exact (LegibleText.append (by decide) (.singleton legible)).append (by decide)
  | string legible => exact (LegibleText.append (by decide) legible).append (by decide)
  | flag letter alphanum =>
    refine LegibleText.append (by decide) fun d member => ?_
    rw [String.toList_ofList] at member
    rcases List.mem_cons.mp member with rfl | member
    · exact legible_of_isAlphanum (Unicode.isAlphanum_iff.mpr (.inl letter))
    · exact legible_of_isAlphanum (alphanum d member)
  | undefined legible => exact .singleton legible

/-! ## Texts -/

theorem tokenizes_spelling {tokens : List Token} (spellable : ∀ token ∈ tokens, Spellable token) :
    Tokenizes (Scan.word (" ".intercalate (tokens.map Token.spelling))) 0
      (.ok (tokens ++ [.endOfInput])) := by
  induction tokens with
  | nil => exact .final
  | cons token tokens ih =>
    obtain ⟨first, others⟩ := List.forall_mem_cons.mp spellable
    cases tokens with
    | nil =>
      -- no blank follows the last token
      rw [List.map_cons, List.map_nil, String.intercalate_singleton]
      exact first.chunk.tokenizes
    | cons next tokens =>
      have rest := ih others
      rw [List.map_cons] at rest
      rw [List.map_cons, List.map_cons, String.intercalate_cons_cons, Scan.word_append,
        Scan.word_append, List.append_assoc]
      exact first.chunk.tokenizes_append rest

/-- Tokens are read from their spellings, with blanks between them, as they were written. -/
theorem tokenize_spelling {tokens : List Token} (spellable : ∀ token ∈ tokens, Spellable token) :
    tokenize (" ".intercalate (tokens.map Token.spelling)) {} true =
      .ok (tokens ++ [.endOfInput]) := by
  refine tokenize_word (tokenizes_spelling spellable) (LegibleText.intercalate (by decide) ?_)
  intro text member
  obtain ⟨token, written, rfl⟩ := List.mem_map.mp member
  exact (spellable token written).legible

/-- A lone slash does not open the comment that follows, which holds the opening of another. -/
theorem tokenize_spelling_comment :
    tokenize "/ /*/**/ -t true 'a' \n -9223372036854775808 \"//\"" {} true =
      .ok [.undefined "/", .comment "/*", .flag "t", .boolean true, .character "a", .newLine,
        .integer (-0x8000000000000000), .uninterpolatedString "//", .endOfInput] := by
  let tokens : List Token := [.undefined "/", .comment "/*", .flag "t", .boolean true,
    .character "a", .newLine, .integer (-0x8000000000000000), .uninterpolatedString "//"]
  have spellable : ∀ token ∈ tokens, Spellable token := by
    simp only [tokens, List.forall_mem_cons, List.not_mem_nil, false_implies, implies_true,
      and_true]
    exact ⟨.undefined (c := '/') (by decide) (by decide) (by decide) (by decide),
      .comment (by decide) (by decide), @Spellable.flag 't' [] (by decide) (by simp),
      .boolean true, .character (c := 'a') (by decide) (by decide), .newLine,
      .integer (by decide), .string (by decide) (by decide)⟩
  have text : " ".intercalate (tokens.map Token.spelling) =
      "/ /*/**/ -t true 'a' \n -9223372036854775808 \"//\"" := by decide +kernel
  have read := tokenize_spelling spellable
  rwa [text] at read

end LiteralLexer
