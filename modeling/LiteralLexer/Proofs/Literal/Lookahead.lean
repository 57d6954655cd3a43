import LiteralLexer.Proofs.Literal.Separator

/-!
# How far a literal looks ahead

A literal that ends before the text does is told by the cluster that stops it, or by that one and the
next: `0x` is a zero and a letter unless a digit follows, and so is a point behind digits.  So two
clusters behind a literal decide that it is one (`Literal.lookahead`).  That a cluster begins no
literal may take longer to see: behind an `f` four more clusters may complete a word
(`Literal.none_lookahead`).
-/

namespace LiteralLexer

section Agree

variable {cs ds : List Cluster} {n m : Nat}

theorem take_eq_of_le (agree : cs.take n = ds.take n) (shorter : m ≤ n) : cs.take m = ds.take m := by
  have cut := congrArg (List.take m) agree
  rwa [List.take_take, List.take_take, Nat.min_eq_left shorter] at cut

theorem length_le_of_take (agree : cs.take n = ds.take n) (long : n ≤ cs.length) : n ≤ ds.length := by
  have size := congrArg List.length agree
  rw [List.length_take, List.length_take, Nat.min_eq_left long] at size
  omega

theorem take_drop_eq (agree : cs.take (m + n) = ds.take (m + n)) :
    (cs.drop m).take n = (ds.drop m).take n := by
  have cut := congrArg (List.drop m) agree
  rwa [List.drop_take, List.drop_take, Nat.add_sub_cancel_left] at cut

theorem getElem?_eq_of_take (agree : cs.take n = ds.take n) (before : m < n) :
    cs[m]? = ds[m]? := by
  rw [← List.getElem?_take_of_lt before, agree, List.getElem?_take_of_lt before]

/-- Clusters that agree with a lexeme and some more of what follows it begin with the lexeme too. -/
theorem exists_append_of_take (lexeme : List Cluster) {rest : List Cluster}
    (agree : (lexeme ++ rest).take (lexeme.length + n) = ds.take (lexeme.length + n)) :
    ∃ more, ds = lexeme ++ more ∧ rest.take n = more.take n := by
  have first := take_eq_of_le agree (Nat.le_add_right _ _)
  have next := take_drop_eq agree
  rw [List.take_left] at first
  rw [List.drop_left] at next
  have whole := List.take_append_drop lexeme.length ds
  rw [← first] at whole
  exact ⟨ds.drop lexeme.length, whole.symm, next⟩

end Agree

/-! ## Parts of literals -/

section Parts

variable {rest more : List Cluster} {n : Nat}

theorem Stops.lookahead {keep : Cluster → Bool} (stops : Stops keep rest)
    (agree : rest.take (n + 1) = more.take (n + 1)) : Stops keep more := by
  intro c head
  refine stops c ?_
  have same := congrArg List.head? agree
  rwa [List.head?_take, List.head?_take, if_neg (by simp), if_neg (by simp), head] at same

theorem ClosesAt.lookahead {text : List Char} {size : Nat} (closes : ClosesAt rest text size)
    (agree : rest.take size = more.take size) : ClosesAt more text size where
  le_length := length_le_of_take agree closes.le_length
  closed := by rw [← agree, closes.closed]
  first m smaller := by
    rw [← take_eq_of_le agree (Nat.le_of_lt smaller)]
    exact closes.first m smaller

theorem SelectsRadix.lookahead {radix : Radix} (selects : SelectsRadix rest radix)
    (agree : rest.take 3 = more.take 3) : SelectsRadix more radix := by
  obtain ⟨other, c, tail, continues, rfl⟩ := selects
  obtain ⟨letter, mark, _⟩ := exists_letter other
  rw [mark] at agree
  obtain ⟨tail, rfl, _⟩ := exists_append_of_take (n := 0) [.single '0', letter, c] agree
  exact ⟨other, c, tail, continues, by rw [mark]; rfl⟩

theorem TakesPoint.lookahead {whole : List Cluster} (takes : TakesPoint whole rest)
    (agree : rest.take 2 = more.take 2) : TakesPoint whole more := by
  obtain ⟨unseparated, c, tail, digit, rfl⟩ := takes
  obtain ⟨tail, rfl, _⟩ := exists_append_of_take (n := 0) [.single '.', c] agree
  exact ⟨unseparated, c, tail, digit, rfl⟩

end Parts

/-! ## Literals -/

namespace Literal

variable {cs ds : List Cluster} {token : Token} {size : Nat} {scan : Scan}

/-- Two clusters behind a literal decide that it is one.  So far behind the end of the text and a
comment that runs up to it there is nothing. -/
theorem lookahead (literal : Literal cs scan) (accepted : scan = .accept token size)
    (far : size + 2 ≤ cs.length) (agree : cs.take (size + 2) = ds.take (size + 2)) :
    Literal ds scan := by
  have covered : scan.size = size := by rw [accepted]; rfl
  cases literal with
  | endOfInput =>
    cases accepted
    contradiction
  | newLine newline =>
    cases accepted
    obtain ⟨more, rfl, _⟩ := exists_append_of_take (n := 2) [_] agree
    exact newLine newline
  | lineComment =>
    cases accepted
    simp only [List.length_cons] at far
    omega
  | blockComment closes =>
    cases accepted
    rw [Nat.add_assoc] at agree
    obtain ⟨more, rfl, ahead⟩ := exists_append_of_take (Scan.word "/*") agree
    exact blockComment (closes.lookahead (take_eq_of_le ahead (Nat.le_add_right _ _)))
  | boolTrue =>
    cases accepted
    obtain ⟨more, rfl, _⟩ := exists_append_of_take (n := 2) (Scan.word "true") agree
    exact boolTrue
  | boolFalse =>
    cases accepted
    obtain ⟨more, rfl, _⟩ := exists_append_of_take (n := 2) (Scan.word "false") agree
    exact boolFalse
  | prefixed negative other nonempty inside stops =>
    rw [Scan.size_integer] at covered
    simp only [← List.append_assoc] at agree covered ⊢
    rw [← covered] at agree
    obtain ⟨more, rfl, ahead⟩ := exists_append_of_take _ agree
    simp only [List.append_assoc]
    exact prefixed negative other nonempty inside (stops.lookahead ahead)
  | whole negative digit inside stops plain integral =>
    rename_i c run rest
    rw [Scan.size_integer] at covered
    rw [← List.append_assoc, ← covered] at agree
    obtain ⟨more, rfl, ahead⟩ := exists_append_of_take _ agree
    -- the first digit and the two clusters behind the number would show a mark
    have first : (c :: run ++ rest).take 3 = (c :: run ++ more).take 3 := by
      refine take_eq_of_le (n := (c :: run).length + 2) ?_ (by simp)
      rw [List.take_length_add_append, List.take_length_add_append, ahead]
    rw [List.append_assoc]
    refine whole negative digit inside (stops.lookahead ahead) (fun radix selects => ?_) fun takes => ?_
    · exact plain radix (selects.lookahead first.symm)
    · exact integral (takes.lookahead ahead.symm)
  | fraction negative digit inside unseparated follows within stops =>
    rename_i c d run more rest
    cases accepted
    have lexeme : sign negative ++ (c :: run ++ .single '.' :: (d :: more ++ rest)) =
        (sign negative ++ (c :: run ++ .single '.' :: d :: more)) ++ rest := by simp
    have covers : (sign negative).length + (run.length + 1) + 1 + (more.length + 1) =
        (sign negative ++ (c :: run ++ .single '.' :: d :: more)).length := by
      simp only [List.length_append, List.length_cons]
      omega
    rw [lexeme, covers] at agree
    obtain ⟨rest, rfl, ahead⟩ := exists_append_of_take _ agree
    have found := fraction negative digit inside unseparated follows within (stops.lookahead ahead)
    simpa only [List.append_assoc, List.cons_append] using found
  | character content =>
    cases accepted
    obtain ⟨more, rfl, _⟩ := exists_append_of_take (n := 2) [_, _, _] agree
    exact character content
  | string inside =>
    rename_i body rest
    cases accepted
    have lexeme : Cluster.single '"' :: (body ++ .single '"' :: rest) =
        (.single '"' :: (body ++ [Cluster.single '"'])) ++ rest := by simp
    have covers : body.length + 2 = (.single '"' :: (body ++ [Cluster.single '"'])).length := by simp
    rw [lexeme, covers] at agree
    obtain ⟨more, rfl, _⟩ := exists_append_of_take _ agree
    rw [List.cons_append, List.append_assoc]
    exact string inside
  | flag letter inside stops =>
    rename_i c name rest
    cases accepted
    rw [← List.cons_append] at agree
    obtain ⟨more, rfl, ahead⟩ := exists_append_of_take (.single '-' :: c :: name) agree
    exact flag letter inside (stops.lookahead ahead)
  | openComment | emptyCharacter | crowdedCharacter | openString => contradiction

end Literal

theorem Opening.length_le {opening : List Cluster} (opens : Opening opening) : opening.length ≤ 5 := by
  cases opens with
  | number negative => cases negative <;> simp [sign]
  | _ => simp [Scan.word]

/-- Where no literal begins, five clusters show it. -/
theorem Literal.none_lookahead {cs ds : List Cluster} (none : ∀ scan, ¬ Literal cs scan)
    (agree : cs.take 5 = ds.take 5) (scan : Scan) : ¬ Literal ds scan := by
  intro literal
  have notNone : ¬ ∃ scan, Literal cs scan := fun ⟨scan, literal⟩ => none scan literal
  rw [exists_iff] at notNone
  rcases exists_iff.mp ⟨scan, literal⟩ with rfl | ⟨opening, opens, begins⟩
  · exact notNone (.inl (by simpa using agree))
  · refine notNone (.inr ⟨opening, opens, ?_⟩)
    rw [List.prefix_iff_eq_take, take_eq_of_le agree opens.length_le]
    exact List.prefix_iff_eq_take.mp begins

end LiteralLexer
