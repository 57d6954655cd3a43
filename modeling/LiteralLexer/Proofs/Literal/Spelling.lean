import LiteralLexer.Proofs.Literal.Scan

/-!
# Lexemes

`Spells final token lexeme` says how the clusters of a lexeme spell its token, whatever stands before
or after them.  The grammar of literals looks at what follows a literal to find out where it ends;
here only the literal itself is left, and whether it is the last thing in its text.
-/

namespace LiteralLexer

/-- A lexeme spells a token.  `final` says that the text ends with the lexeme. -/
inductive Spells (final : Prop) : Token → List Cluster → Prop where
  | newLine {c : Cluster} (newline : c.isNewline = true) : Spells final .newLine [c]
  | lineComment {body : List Cluster} (last : final) :
      Spells final (.comment (Cluster.joinText body)) (Scan.word "//" ++ body)
  /-- The delimiters are found in the characters of the lexeme. -/
  | blockComment {lexeme : List Cluster} {text : String}
      (delimited : Cluster.joinText lexeme = "/*" ++ text ++ "*/") :
      Spells final (.comment text) lexeme
  | boolean (value : Bool) : Spells final (.boolean value) (Scan.word (toString value))
  /-- An optional sign, a digit of ASCII, and then what continues a number of the radix. -/
  | integer (negative : Bool) {radix : Radix} {run : List Cluster} {n : Int}
      (begins : (radix.mark ++ run)[0]?.any Cluster.isDigit = true)
      (inside : ∀ c ∈ run, radix.continues c = true)
      (value : Recognizer.toInteger? radix negative (Recognizer.withoutSeparators run) = some n) :
      Spells final (.integer n) (sign negative ++ (radix.mark ++ run))
  /-- An optional sign, a digit of ASCII, and two runs of digits around a point. -/
  | floatingPoint (negative : Bool) {c d : Cluster} {run more : List Cluster}
      (digit : c.isDigit = true) (inside : ∀ e ∈ run, Radix.decimal.continues e = true)
      (unseparated : (c :: run).getLast? ≠ some (.single '_')) (follows : d.isDigit = true)
      (within : ∀ e ∈ more, Radix.decimal.continues e = true) :
      Spells final (.floatingPoint (Scan.fractional negative (c :: run) (d :: more)))
        (sign negative ++ (c :: run ++ .single '.' :: d :: more))
  | character {c : Cluster} :
      Spells final (.character c.text) [.single '\'', c, .single '\'']
  | string {body : List Cluster} (inside : Cluster.single '"' ∉ body) :
      Spells final (.uninterpolatedString (Cluster.joinText body))
        (.single '"' :: (body ++ [.single '"']))
  | flag {c : Cluster} {name : List Cluster} (letter : c.isLetter = true)
      (inside : ∀ d ∈ name, d.isAlphanumeric = true) :
      Spells final (.flag (Cluster.joinText (c :: name))) (.single '-' :: c :: name)
  | undefined {c : Cluster} : Spells final (.undefined c.text) [c]

theorem Radix.begins_mark {radix : Radix} (other : radix ≠ .decimal) (run : List Cluster) :
    (radix.mark ++ run)[0]?.any Cluster.isDigit = true := by
  cases radix with
  | decimal => contradiction
  | binary | octal | hexadecimal => rfl

theorem Scan.integer_eq_accept {lexeme run : List Cluster} {radix : Radix} {negative : Bool}
    {token : Token} {size : Nat}
    (accepted : Scan.integer lexeme radix negative run = .accept token size) :
    size = lexeme.length ∧ ∃ n, token = .integer n ∧
      Recognizer.toInteger? radix negative (Recognizer.withoutSeparators run) = some n := by
  unfold Scan.integer at accepted
  split at accepted
  · next n value =>
    cases accepted
    exact ⟨rfl, n, rfl, value⟩
  · contradiction

/-- The text of a block comment stands between its delimiters. -/
theorem ClosesAt.delimited {body : List Cluster} {text : List Char} {size : Nat}
    (closes : ClosesAt body text size) :
    Cluster.joinText (.single '/' :: .single '*' :: body.take size) =
      "/*" ++ String.ofList text ++ "*/" := by
  rw [Cluster.joinText, Cluster.join_cons, Cluster.join_cons, closes.closed]
  simp only [String.ext_iff]
  simp

theorem Spells.of_split {final : Prop} {token : Token} {cs lexeme : List Cluster} {size : Nat}
    (rest : List Cluster) (spells : Spells final token lexeme) (split : cs = lexeme ++ rest)
    (length : size = lexeme.length) : Spells final token (cs.take size) := by
  rwa [split, List.take_left' length.symm]

/-- A literal is spelled by its own clusters. -/
theorem Literal.spells {cs : List Cluster} {scan : Scan} {token : Token} {size : Nat}
    (literal : Literal cs scan) (accepted : scan = .accept token size)
    (inner : token ≠ .endOfInput) : Spells (size = cs.length) token (cs.take size) := by
  cases literal with
  | endOfInput =>
    cases accepted
    contradiction
  | newLine newline =>
    cases accepted
    exact .newLine newline
  | lineComment =>
    cases accepted
    exact .of_split [] (.lineComment rfl) (List.append_nil _).symm (by simp [Scan.word])
  | blockComment closes =>
    cases accepted
    rw [Nat.add_comm]
    exact .blockComment closes.delimited
  | boolTrue =>
    cases accepted
    exact .boolean true
  | boolFalse =>
    cases accepted
    exact .boolean false
  | prefixed negative other nonempty inside stops =>
    rename_i radix run rest
    obtain ⟨length, n, rfl, value⟩ := Scan.integer_eq_accept accepted
    have begins := Radix.begins_mark other run
    exact .of_split rest (.integer negative begins inside value) (by simp) length
  | whole negative digit inside stops plain integral =>
    rename_i c run rest
    obtain ⟨length, n, rfl, value⟩ := Scan.integer_eq_accept accepted
    have begins : (Radix.decimal.mark ++ c :: run)[0]?.any Cluster.isDigit = true := digit
    have continues : ∀ d ∈ c :: run, Radix.decimal.continues d = true :=
      List.forall_mem_cons.mpr ⟨continues_of_isDigit digit, inside⟩
    exact .of_split rest (.integer negative begins continues value) (by simp [Radix.mark]) length
  | fraction negative digit inside unseparated follows within stops =>
    rename_i c d run more rest
    cases accepted
    refine .of_split rest (.floatingPoint negative digit inside unseparated follows within)
      (by simp) ?_
    simp only [List.length_append, List.length_cons]
    omega
  | character content =>
    cases accepted
    exact .character
  | string inside =>
    rename_i body rest
    cases accepted
    exact .of_split rest (.string inside) (by simp) (by simp)
  | flag letter inside stops =>
    rename_i c name rest
    cases accepted
    exact .of_split rest (.flag letter inside) (by simp) (by simp)
  | openComment | emptyCharacter | crowdedCharacter | openString => contradiction

end LiteralLexer
