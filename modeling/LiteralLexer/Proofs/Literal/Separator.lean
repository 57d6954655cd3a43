import LiteralLexer.Proofs.Literal.Scan

/-!
# Literals before a separator

Whether the clusters begin with a literal at all shows in a few of them, the *opening*
(`Literal.exists_iff`); how long the literal is shows where it ends.  A separator is neither part of an
opening, except at its beginning, nor does it continue a literal.  So clusters that are followed by a
separator begin with the literal that they begin with at the end of a text (`Literal.extend`), and with
none where they begin with none there (`Literal.none_extend`).

There are two exceptions, and both are no surprise: the end of the text is no longer there, and a
comment that runs up to it runs on.
-/

namespace LiteralLexer

/-- The clusters that single out a form of literals, whatever follows them. -/
inductive Opening : List Cluster → Prop where
  | newLine {c : Cluster} (newline : c.isNewline = true) : Opening [c]
  | lineComment : Opening (Scan.word "//")
  | blockComment : Opening (Scan.word "/*")
  | boolTrue : Opening (Scan.word "true")
  | boolFalse : Opening (Scan.word "false")
  | number (negative : Bool) {c : Cluster} (digit : c.isDigit = true) :
      Opening (sign negative ++ [c])
  | character : Opening [.single '\'']
  | string : Opening [.single '"']
  | flag {c : Cluster} (letter : c.isLetter = true) : Opening [.single '-', c]

theorem Scan.unsigned_ne_decline (negative : Bool) (sign : Nat) (cs : List Cluster) :
    Scan.unsigned negative sign cs ≠ .decline := by
  simp only [Scan.unsigned]
  split
  · apply Scan.integer_ne_decline
  · split
    · simp
    · apply Scan.integer_ne_decline

/-- A transform whose opening is there does not decline. -/
theorem Opening.exists_scan {opening : List Cluster} (opens : Opening opening)
    (rest : List Cluster) : ∃ t : Transform, t.scan (opening ++ rest) ≠ .decline := by
  cases opens with
  | newLine newline => exact ⟨.newLine, by simp [Transform.scan, Scan.newLine, newline]⟩
  | lineComment => exact ⟨.comment, by simp [Transform.scan, Scan.comment, Scan.word]⟩
  | blockComment =>
    refine ⟨.comment, ?_⟩
    cases found : Scan.blockEnd? [] rest <;>
      simp [Transform.scan, Scan.comment, Scan.word, found]
  | boolTrue => exact ⟨.boolean, by simp [Transform.scan, Scan.boolean]⟩
  | boolFalse => exact ⟨.boolean, by simp [Transform.scan, Scan.boolean, Scan.word]⟩
  | number negative digit =>
    refine ⟨.number, ?_⟩
    rw [List.append_assoc, List.singleton_append, Transform.scan, number_sign negative digit]
    apply Scan.unsigned_ne_decline
  | character =>
    refine ⟨.character, ?_⟩
    simp only [Transform.scan, Scan.character, List.singleton_append, List.getElem?_cons_zero, if_true]
    split
    · simp
    · split <;> simp
  | string =>
    refine ⟨.string, ?_⟩
    simp only [Transform.scan, Scan.string, List.singleton_append, List.getElem?_cons_zero, if_true]
    split <;> simp
  | flag letter => exact ⟨.flag, by simp [Transform.scan, Scan.flag, letter]⟩

/-- The clusters begin with a literal just if the text ends there or they begin with an opening. -/
theorem Literal.exists_iff {cs : List Cluster} :
    (∃ scan, Literal cs scan) ↔ cs = [] ∨ ∃ opening, Opening opening ∧ opening <+: cs := by
  constructor
  · rintro ⟨scan, literal⟩
    cases literal with
    | endOfInput => exact .inl rfl
    | newLine newline => exact .inr ⟨_, .newLine newline, _, rfl⟩
    | lineComment => exact .inr ⟨_, .lineComment, _, rfl⟩
    | blockComment | openComment => exact .inr ⟨_, .blockComment, _, rfl⟩
    | boolTrue => exact .inr ⟨_, .boolTrue, _, rfl⟩
    | boolFalse => exact .inr ⟨_, .boolFalse, _, rfl⟩
    | prefixed negative other =>
      obtain ⟨letter, mark, _⟩ := exists_letter other
      refine .inr ⟨_, .number negative (c := .single '0') (by decide), ?_⟩
      rw [mark]
      exact (List.prefix_append_right_inj _).mpr ⟨_, rfl⟩
    | whole negative digit =>
      exact .inr ⟨_, .number negative digit, (List.prefix_append_right_inj _).mpr ⟨_, rfl⟩⟩
    | fraction negative digit =>
      exact .inr ⟨_, .number negative digit, (List.prefix_append_right_inj _).mpr ⟨_, rfl⟩⟩
    | character | emptyCharacter | crowdedCharacter => exact .inr ⟨_, .character, _, rfl⟩
    | string | openString => exact .inr ⟨_, .string, _, rfl⟩
    | flag letter => exact .inr ⟨_, .flag letter, _, rfl⟩
  · rintro (rfl | ⟨opening, opens, rest, rfl⟩)
    · exact ⟨_, .endOfInput⟩
    · obtain ⟨t, scans⟩ := opens.exists_scan rest
      exact ⟨_, of_scan scans⟩

/-- One cluster alone is enough for few literals. -/
theorem Literal.none_single {c : Cluster} (inline : c.isNewline = false)
    (notDigit : c.isDigit = false) (unquoted : c ≠ .single '\'' ∧ c ≠ .single '"') (scan : Scan) :
    ¬ Literal [c] scan := by
  intro literal
  rcases exists_iff.mp ⟨scan, literal⟩ with empty | ⟨opening, opens, begins⟩
  · contradiction
  · -- most openings are longer than one cluster
    have short := begins.length_le
    have same {d : Cluster} (first : [d] <+: [c]) : d = c := (List.cons_prefix_cons.mp first).1
    cases opens with
    | newLine newline =>
      obtain rfl := same begins
      rw [inline] at newline
      contradiction
    | number negative digit =>
      cases negative with
      | true => simp [sign] at short
      | false =>
        obtain rfl := same begins
        rw [notDigit] at digit
        contradiction
    | character => exact unquoted.1 (same begins).symm
    | string => exact unquoted.2 (same begins).symm
    | _ => simp [Scan.word] at short

/-! ## Followed by a separator -/

/-- What does not contain a cluster does not reach over it. -/
theorem prefix_of_notMem {opening cs more : List Cluster} {c : Cluster}
    (begins : opening <+: cs ++ c :: more) (absent : c ∉ opening) : opening <+: cs := by
  rcases List.prefix_or_prefix_of_prefix begins (List.prefix_append cs _) with fits | ⟨reach, rfl⟩
  · exact fits
  · have rest := (List.prefix_append_right_inj cs).mp begins
    cases reach with
    | nil => simp
    | cons d reach =>
      obtain ⟨rfl, _⟩ := List.cons_prefix_cons.mp rest
      exact absurd (by simp) absent

section Separator

variable {c : Cluster} (separator : c.Separator)

include separator

theorem Cluster.Separator.notMem_word (word : String)
    (alphanum : word.toList.all Char.isAlphanum = true) : c ∉ Scan.word word := by
  intro member
  obtain ⟨char, inside, rfl⟩ := List.mem_map.mp member
  exact separator.closing.ne_of_word word alphanum char inside rfl

theorem Opening.separator_notMem {opening : List Cluster} (opens : Opening opening) :
    c ∉ opening.tail := by
  have slash : c ≠ .single '/' := separator.ne_mark (by decide)
  have star : c ≠ .single '*' := separator.ne_mark (by decide)
  cases opens with
  | newLine | character | string => simp
  | lineComment => simpa [Scan.word] using slash
  | blockComment => simpa [Scan.word] using star
  | boolTrue => exact fun member => separator.notMem_word "true" (by decide) (.tail _ member)
  | boolFalse => exact fun member => separator.notMem_word "false" (by decide) (.tail _ member)
  | number negative digit =>
    cases negative with
    | true =>
      simp only [sign, if_true, List.singleton_append, List.tail_cons, List.mem_singleton]
      rintro rfl
      rw [separator.closing.notDigit] at digit
      contradiction
    | false => simp [sign]
  | flag letter =>
    simp only [List.tail_cons, List.mem_singleton]
    rintro rfl
    rw [separator.closing.notLetter] at letter
    contradiction

/-- Clusters that begin with no literal do not begin with one if a separator follows. -/
theorem Literal.none_extend {cs : List Cluster} (none : ∀ scan, ¬ Literal cs scan)
    (more : List Cluster) (scan : Scan) : ¬ Literal (cs ++ c :: more) scan := by
  intro literal
  have notNone : ¬ ∃ scan, Literal cs scan := fun ⟨scan, literal⟩ => none scan literal
  rw [exists_iff] at notNone
  rcases exists_iff.mp ⟨scan, literal⟩ with empty | ⟨opening, opens, begins⟩
  · simp at empty
  · -- the separator may be the first cluster of the opening, but `cs` has a first cluster
    cases cs with
    | nil => exact notNone (.inl rfl)
    | cons d cs =>
      refine notNone (.inr ⟨opening, opens, ?_⟩)
      cases opening with
      | nil => exact List.nil_prefix
      | cons e opening =>
        obtain ⟨rfl, after⟩ := List.cons_prefix_cons.mp begins
        refine List.cons_prefix_cons.mpr ⟨rfl, ?_⟩
        exact prefix_of_notMem after (opens.separator_notMem separator)

omit separator in
theorem Stops.extend {keep : Cluster → Bool} {rest : List Cluster} (stops : Stops keep rest)
    (refused : keep c = false) (more : List Cluster) : Stops keep (rest ++ c :: more) := by
  cases rest with
  | nil => exact stops_cons.mpr refused
  | cons d rest => exact stops_cons.mpr (stops_cons.mp stops)

omit separator in
theorem ClosesAt.extend {body : List Cluster} {text : List Char} {size : Nat}
    (closes : ClosesAt body text size) (more : List Cluster) : ClosesAt (body ++ more) text size where
  le_length := by
    rw [List.length_append]
    exact Nat.le_trans closes.le_length (Nat.le_add_right _ _)
  closed := by rw [List.take_append_of_le_length closes.le_length, closes.closed]
  first n smaller := by
    have within := Nat.le_trans (Nat.le_of_lt smaller) closes.le_length
    rw [List.take_append_of_le_length within]
    exact closes.first n smaller

theorem SelectsRadix.of_extend {cs more : List Cluster} {radix : Radix}
    (selects : SelectsRadix (cs ++ c :: more) radix) : SelectsRadix cs radix := by
  obtain ⟨other, d, tail, continues, split⟩ := selects
  obtain ⟨letter, mark, chosen, _⟩ := exists_letter other
  have absent : c ∉ radix.mark ++ [d] := by
    intro member
    rcases List.mem_append.mp member with marked | last
    · cases radix with
      | decimal => contradiction
      | binary => exact separator.notMem_word "0b" (by decide) marked
      | octal => exact separator.notMem_word "0o" (by decide) marked
      | hexadecimal => exact separator.notMem_word "0x" (by decide) marked
    · obtain rfl := List.mem_singleton.mp last
      rw [separator.closing.not_continues] at continues
      contradiction
  have begins : radix.mark ++ [d] <+: cs ++ c :: more := ⟨tail, by rw [split]; simp⟩
  obtain ⟨rest, split⟩ := prefix_of_notMem begins absent
  exact ⟨other, d, rest, continues, by rw [← split]; simp⟩

theorem TakesPoint.of_extend {whole rest more : List Cluster}
    (takes : TakesPoint whole (rest ++ c :: more)) : TakesPoint whole rest := by
  obtain ⟨unseparated, d, tail, digit, split⟩ := takes
  have absent : c ∉ [.single '.', d] := by
    intro member
    rcases List.mem_cons.mp member with point | last
    · exact separator.ne_mark (by decide) point
    · obtain rfl := List.mem_singleton.mp last
      rw [separator.closing.notDigit] at digit
      contradiction
  have begins : [.single '.', d] <+: rest ++ c :: more := ⟨tail, split.symm⟩
  obtain ⟨after, split⟩ := prefix_of_notMem begins absent
  exact ⟨unseparated, d, after, digit, split.symm⟩

/-- A literal that ends before a separator is the literal that it is at the end of a text. -/
theorem Literal.extend {cs : List Cluster} {token : Token} {size : Nat} {scan : Scan}
    (literal : Literal cs scan) (accepted : scan = .accept token size)
    (inner : token ≠ .endOfInput) (closed : ¬ Scan.word "//" <+: cs) (more : List Cluster) :
    Literal (cs ++ c :: more) scan := by
  cases literal with
  | endOfInput =>
    cases accepted
    contradiction
  | newLine newline => exact newLine newline
  | lineComment => exact absurd ⟨_, rfl⟩ closed
  | blockComment closes => exact blockComment (closes.extend _)
  | boolTrue =>
    rw [List.append_assoc]
    exact boolTrue
  | boolFalse =>
    rw [List.append_assoc]
    exact boolFalse
  | prefixed negative other nonempty inside stops =>
    -- the separator ends the run as the end of the text did
    simp only [List.append_assoc]
    exact prefixed negative other nonempty inside (stops.extend (separator.closing.not_continues _) more)
  | whole negative digit inside stops plain integral =>
    -- behind the separator, neither a mark nor a fraction comes into being
    rename_i d run rest
    have ends := stops.extend (separator.closing.not_continues _) more
    rw [List.append_assoc, List.append_assoc]
    refine whole negative digit inside ends (fun radix selects => plain radix ?_) fun takes =>
      integral (takes.of_extend separator)
    rw [← List.append_assoc] at selects
    exact selects.of_extend separator
  | fraction negative digit inside unseparated follows within stops =>
    have ends := stops.extend (separator.closing.not_continues _) more
    have scans := fraction negative digit inside unseparated follows within ends
    simpa only [List.append_assoc, List.cons_append] using scans
  | character content => exact character content
  | string inside =>
    rw [List.cons_append, List.append_assoc]
    exact string inside
  | flag letter inside stops =>
    rw [List.cons_append, List.append_assoc]
    exact flag letter inside (stops.extend separator.notAlphanumeric more)
  | openComment | emptyCharacter | crowdedCharacter | openString => contradiction

end Separator

end LiteralLexer
