import LiteralLexer.Proofs.Cluster
import LiteralLexer.Proofs.Literal.Basic

/-!
# Scanning follows the grammar

The scan of a transform is what the grammar says of the clusters (`Literal.iff_scan`).  In one
direction each rule is evaluated; in the other the clusters are cut the way the scan cuts them, which
puts them into the form of a rule, and then the evaluation of that rule is used again.
-/

namespace LiteralLexer

/-! ## Block comments -/

/-- The characters read so far end with the closing delimiter just if they were read, last one first,
in this form. -/
theorem closed_iff {read : List Char} :
    ['*', '/'] <:+ read.reverse ↔ ∃ text, read = '/' :: '*' :: text := by
  rw [← List.reverse_prefix, List.reverse_reverse]
  constructor
  · rintro ⟨text, rfl⟩
    exact ⟨text, rfl⟩
  · rintro ⟨text, rfl⟩
    exact ⟨text, rfl⟩

/-- Taking one cluster more is having read one cluster more. -/
theorem reverse_append_join_take (read : List Char) (c : Cluster) (body : List Cluster) (n : Nat) :
    read.reverse ++ Cluster.join ((c :: body).take (n + 1)) =
      (c.toList.reverse ++ read).reverse ++ Cluster.join (body.take n) := by
  simp

theorem blockEnd?_some {read text : List Char} {body : List Cluster} {size : Nat}
    (found : Scan.blockEnd? read body = some (text, size)) :
    size ≤ body.length ∧ read.reverse ++ Cluster.join (body.take size) = text ++ ['*', '/'] ∧
      ∀ n < size, ¬ ['*', '/'] <:+ read.reverse ++ Cluster.join (body.take n) := by
  induction body generalizing read size with
  | nil =>
    by_cases closed : ∃ text, read = '/' :: '*' :: text
    · obtain ⟨text, rfl⟩ := closed
      rw [Scan.blockEnd?_closed] at found
      cases found
      simp
    · rw [Scan.blockEnd?_nil fun text equal => closed ⟨text, equal⟩] at found
      contradiction
  | cons c body ih =>
    -- the delimiter may be complete before another cluster is read
    by_cases closed : ∃ text, read = '/' :: '*' :: text
    · obtain ⟨text, rfl⟩ := closed
      rw [Scan.blockEnd?_closed] at found
      cases found
      simp
    · rw [Scan.blockEnd?_cons fun text equal => closed ⟨text, equal⟩] at found
      obtain ⟨⟨text, n⟩, later, equal⟩ := Option.map_eq_some_iff.mp found
      cases equal
      obtain ⟨bound, ends, first⟩ := ih later
      refine ⟨by simpa using bound, by rw [reverse_append_join_take, ends], ?_⟩
      intro m smaller
      cases m with
      | zero => simpa [closed_iff] using closed
      | succ m =>
        rw [reverse_append_join_take]
        exact first m (by omega)

theorem opened_of_blockEnd? {read : List Char} {body : List Cluster}
    (missing : Scan.blockEnd? read body = none) (text : List Char) :
    read ≠ '/' :: '*' :: text := by
  rintro rfl
  rw [Scan.blockEnd?_closed] at missing
  contradiction

theorem blockEnd?_none {read : List Char} {body : List Cluster}
    (missing : Scan.blockEnd? read body = none) (n : Nat) (bound : n ≤ body.length) :
    ¬ ['*', '/'] <:+ read.reverse ++ Cluster.join (body.take n) := by
  have opened := opened_of_blockEnd? missing
  induction body generalizing read n with
  | nil => simpa [closed_iff] using opened
  | cons c body ih =>
    cases n with
    | zero => simpa [closed_iff] using opened
    | succ n =>
      rw [Scan.blockEnd?_cons opened, Option.map_eq_none_iff] at missing
      rw [reverse_append_join_take]
      exact ih missing n (by simpa using bound) (opened_of_blockEnd? missing)

theorem ClosesAt.unique {body : List Cluster} {text text' : List Char} {size size' : Nat}
    (left : ClosesAt body text size) (right : ClosesAt body text' size') :
    text = text' ∧ size = size' := by
  have same : size = size' := by
    rcases Nat.lt_trichotomy size size' with less | equal | greater
    · exact absurd ⟨text, left.closed.symm⟩ (right.first size less)
    · exact equal
    · exact absurd ⟨text', right.closed.symm⟩ (left.first size' greater)
  subst same
  exact ⟨List.append_cancel_right (left.closed.symm.trans right.closed), rfl⟩

/-- The search for the end of a block comment finds it if there is one. -/
theorem blockEnd?_eq_some_iff {body : List Cluster} {text : List Char} {size : Nat} :
    Scan.blockEnd? [] body = some (text, size) ↔ ClosesAt body text size := by
  constructor
  · intro found
    obtain ⟨bound, ends, first⟩ := blockEnd?_some found
    exact ⟨bound, ends, first⟩
  · intro closes
    cases found : Scan.blockEnd? [] body with
    | none => exact absurd ⟨text, closes.closed.symm⟩ (blockEnd?_none found size closes.le_length)
    | some result =>
      obtain ⟨bound, ends, first⟩ := blockEnd?_some found
      obtain ⟨rfl, rfl⟩ := closes.unique ⟨bound, ends, first⟩
      rfl

theorem blockEnd?_eq_none_iff {body : List Cluster} :
    Scan.blockEnd? [] body = none ↔
      ∀ n ≤ body.length, ¬ ['*', '/'] <:+ Cluster.join (body.take n) := by
  constructor
  · exact blockEnd?_none
  · intro unclosed
    cases found : Scan.blockEnd? [] body with
    | none => rfl
    | some result =>
      obtain ⟨bound, ends, _⟩ := blockEnd?_some found
      exact absurd ⟨result.1, ends.symm⟩ (unclosed result.2 bound)

/-! ## Numbers -/

theorem mark_of_ofLetter? {c : Cluster} {radix : Radix} (selected : Radix.ofLetter? c = some radix) :
    radix ≠ .decimal ∧ radix.mark = [.single '0', c] := by
  unfold Radix.ofLetter? at selected
  split at selected
  · next letter => cases selected; exact ⟨by decide, letter ▸ rfl⟩
  · split at selected
    · next letter => cases selected; exact ⟨by decide, letter ▸ rfl⟩
    · split at selected
      · next letter => cases selected; exact ⟨by decide, letter ▸ rfl⟩
      · contradiction

theorem exists_letter {radix : Radix} (other : radix ≠ .decimal) :
    ∃ c, radix.mark = [.single '0', c] ∧ Radix.ofLetter? c = some radix ∧
      Radix.decimal.continues c = false := by
  cases radix with
  | binary => exact ⟨.single 'b', rfl, by decide, by decide⟩
  | octal => exact ⟨.single 'o', rfl, by decide, by decide⟩
  | decimal => contradiction
  | hexadecimal => exact ⟨.single 'x', rfl, by decide, by decide⟩

theorem selectedRadix?_eq_some_iff {cs : List Cluster} {radix : Radix} :
    Scan.selectedRadix? cs = some radix ↔ SelectsRadix cs radix := by
  constructor
  · intro selected
    obtain ⟨zero, ⟨letter, second, chosen⟩, c, third, continues⟩ :=
      Scan.selectedRadix?_eq_some selected
    obtain ⟨other, mark⟩ := mark_of_ofLetter? chosen
    obtain ⟨rest, rfl⟩ := Scan.exists_cons_cons zero second
    obtain ⟨tail, rfl⟩ : ∃ tail, rest = c :: tail := Scan.exists_cons third
    exact ⟨other, c, tail, continues, by rw [mark]; rfl⟩
  · rintro ⟨other, c, tail, continues, rfl⟩
    obtain ⟨letter, mark, chosen, _⟩ := exists_letter other
    simp [Scan.selectedRadix?, mark, chosen, continues]

theorem selectedRadix?_eq_none_iff {cs : List Cluster} :
    Scan.selectedRadix? cs = none ↔ ∀ radix, ¬ SelectsRadix cs radix := by
  simp only [← selectedRadix?_eq_some_iff, Option.eq_none_iff_forall_ne_some, ne_eq]

theorem atFraction_iff_takesPoint {whole rest : List Cluster} :
    Scan.atFraction whole rest = true ↔ TakesPoint whole rest := by
  rw [Scan.atFraction_iff]
  constructor
  · rintro ⟨point, unseparated, c, second, digit⟩
    obtain ⟨tail, rfl⟩ := Scan.exists_cons_cons point second
    exact ⟨unseparated, c, tail, digit, rfl⟩
  · rintro ⟨unseparated, c, tail, digit, rfl⟩
    exact ⟨rfl, unseparated, c, rfl, digit⟩

theorem continues_of_isDigit {c : Cluster} (digit : c.isDigit = true) :
    Radix.decimal.continues c = true := by
  simp only [Cluster.isDigit, Bool.and_eq_true] at digit
  have range := Unicode.isDigit_iff.mp digit.2
  have small : c.head.toNat - 48 < 10 := by omega
  simp [Radix.continues, digit.1, Radix.isDigit, Radix.digitValue?, digit.2, Radix.base, small]

/-- A number that goes on with a point has no radix mark: neither digits nor a point are letters. -/
theorem not_selectsRadix_of_point {c : Cluster} {run rest : List Cluster}
    (inside : ∀ d ∈ run, Radix.decimal.continues d = true) (radix : Radix) :
    ¬ SelectsRadix (c :: run ++ .single '.' :: rest) radix := by
  rintro ⟨other, d, tail, _, split⟩
  obtain ⟨letter, mark, chosen, foreign⟩ := exists_letter other
  rw [mark] at split
  -- the letter of the mark would be the point, or one of the digits before it
  cases run with
  | nil =>
    obtain rfl : Cluster.single '.' = letter := by simp_all
    have none : Radix.ofLetter? (.single '.') = none := by decide
    rw [none] at chosen
    contradiction
  | cons e run =>
    obtain rfl : e = letter := by simp_all
    rw [inside e List.mem_cons_self] at foreign
    contradiction

/-- Digits alone do not select a radix. -/
theorem not_selectsRadix_of_continues {c : Cluster} {run : List Cluster}
    (inside : ∀ d ∈ run, Radix.decimal.continues d = true) (radix : Radix) :
    ¬ SelectsRadix (c :: run) radix := by
  rintro ⟨other, d, tail, continues, split⟩
  have point : ¬ SelectsRadix (c :: run ++ [.single '.']) radix :=
    not_selectsRadix_of_point inside radix
  refine point ⟨other, d, tail ++ [.single '.'], continues, ?_⟩
  rw [split]
  simp

/-- Behind a sign and before a digit, the sign is the only thing that makes a difference. -/
theorem number_sign (negative : Bool) {c : Cluster} (digit : c.isDigit = true)
    (rest : List Cluster) :
    Scan.number (sign negative ++ c :: rest) =
      Scan.unsigned negative (sign negative).length (sign negative ++ c :: rest) := by
  cases negative with
  | true => simp [Scan.number, sign, digit]
  | false =>
    have other : c ≠ .single '-' := Cluster.ne_single_of_isDigit digit (by decide)
    simp [Scan.number, sign, digit, other]

section Unsigned

variable (negative : Bool) (lead : List Cluster)

theorem unsigned_prefixed {radix : Radix} {run rest : List Cluster}
    (other : radix ≠ .decimal) (nonempty : run ≠ [])
    (inside : ∀ c ∈ run, radix.continues c = true) (stops : Stops radix.continues rest) :
    Scan.unsigned negative lead.length (lead ++ (radix.mark ++ (run ++ rest))) =
      .integer (lead ++ (radix.mark ++ run)) radix negative run := by
  have selects : SelectsRadix (radix.mark ++ (run ++ rest)) radix := by
    -- the first cluster of the run is what makes the letter a mark
    obtain ⟨c, run, rfl⟩ := List.exists_cons_of_ne_nil nonempty
    exact ⟨other, c, run ++ rest, inside c List.mem_cons_self, rfl⟩
  have size : radix.mark.length = 2 := by
    obtain ⟨letter, mark, _⟩ := exists_letter other
    simp [mark]
  have taken : ((radix.mark ++ (run ++ rest)).drop 2).takeWhile radix.continues = run := by
    rw [← size, List.drop_left]
    exact takeWhile_run inside stops
  have lexeme : (lead ++ (radix.mark ++ (run ++ rest))).take (lead.length + 2 + run.length) =
      lead ++ (radix.mark ++ run) := by
    rw [← size, ← List.append_assoc, ← List.append_assoc, ← List.length_append,
      ← List.length_append, List.take_left, List.append_assoc]
  simp only [Scan.unsigned, List.drop_left, selectedRadix?_eq_some_iff.mpr selects, taken, lexeme]

/-- The digits before a point, or all of an unsigned decimal integer. -/
theorem takeWhile_whole {c : Cluster} {run rest : List Cluster} (digit : c.isDigit = true)
    (inside : ∀ d ∈ run, Radix.decimal.continues d = true)
    (stops : Stops Radix.decimal.continues rest) :
    (c :: run ++ rest).takeWhile Radix.decimal.continues = c :: run := by
  apply takeWhile_run _ stops
  intro d member
  rcases List.mem_cons.mp member with rfl | member
  · exact continues_of_isDigit digit
  · exact inside d member

theorem unsigned_whole {c : Cluster} {run rest : List Cluster} (digit : c.isDigit = true)
    (inside : ∀ d ∈ run, Radix.decimal.continues d = true)
    (stops : Stops Radix.decimal.continues rest)
    (plain : ∀ radix, ¬ SelectsRadix (c :: run ++ rest) radix)
    (integral : ¬ TakesPoint (c :: run) rest) :
    Scan.unsigned negative lead.length (lead ++ (c :: run ++ rest)) =
      .integer (lead ++ (c :: run)) .decimal negative (c :: run) := by
  have taken := takeWhile_whole digit inside stops
  have point : ¬ Scan.atFraction (c :: run) rest = true := by
    rwa [atFraction_iff_takesPoint]
  have lexeme : (lead ++ (c :: run ++ rest)).take (lead.length + (c :: run).length) =
      lead ++ (c :: run) := by
    rw [← List.append_assoc, ← List.length_append, List.take_left]
  simp only [Scan.unsigned, List.drop_left, selectedRadix?_eq_none_iff.mpr plain, taken, lexeme]
  exact if_neg point

theorem unsigned_fraction {c d : Cluster} {run more rest : List Cluster}
    (digit : c.isDigit = true) (inside : ∀ e ∈ run, Radix.decimal.continues e = true)
    (unseparated : (c :: run).getLast? ≠ some (.single '_')) (follows : d.isDigit = true)
    (within : ∀ e ∈ more, Radix.decimal.continues e = true)
    (stops : Stops Radix.decimal.continues rest) :
    Scan.unsigned negative lead.length
        (lead ++ (c :: run ++ .single '.' :: (d :: more ++ rest))) =
      .accept (.floatingPoint (Scan.fractional negative (c :: run) (d :: more)))
        (lead.length + (run.length + 1) + 1 + (more.length + 1)) := by
  have plain : ∀ radix, ¬ SelectsRadix (c :: run ++ .single '.' :: (d :: more ++ rest)) radix :=
    not_selectsRadix_of_point inside
  have taken : (c :: run ++ .single '.' :: (d :: more ++ rest)).takeWhile
      Radix.decimal.continues = c :: run :=
    takeWhile_whole digit inside (by rw [stops_cons]; decide)
  have point : Scan.atFraction (c :: run) (.single '.' :: (d :: more ++ rest)) = true :=
    atFraction_iff_takesPoint.mpr ⟨unseparated, d, more ++ rest, follows, rfl⟩
  have fraction := takeWhile_whole follows within stops
  simp only [Scan.unsigned, List.drop_left, selectedRadix?_eq_none_iff.mpr plain, taken]
  rw [if_pos point, List.drop_one, List.tail_cons, fraction, List.length_cons, List.length_cons]

end Unsigned

/-! ## Quoted literals and flags -/

theorem string_closed {body rest : List Cluster} (inside : Cluster.single '"' ∉ body) :
    Scan.string (.single '"' :: (body ++ .single '"' :: rest)) =
      .accept (.uninterpolatedString (Cluster.joinText body)) (body.length + 2) := by
  have taken : (body ++ .single '"' :: rest).takeWhile (· ≠ .single '"') = body := by
    apply takeWhile_run
    · intro c member
      exact decide_eq_true fun equal => inside (equal ▸ member)
    · simp
  have size : 1 + body.length + 1 = body.length + 2 := by omega
  simp only [Scan.string, List.getElem?_cons_zero, if_true, List.drop_one, List.tail_cons, taken,
    size, List.length_cons, List.length_append]
  exact if_pos (by omega)

theorem string_open {body : List Cluster} (unclosed : Cluster.single '"' ∉ body) :
    Scan.string (.single '"' :: body) = .reject .unterminatedString (body.length + 1) := by
  have taken : body.takeWhile (· ≠ .single '"') = body := by
    apply List.takeWhile_eq_self_iff.mpr
    intro c member
    exact decide_eq_true fun equal => unclosed (equal ▸ member)
  simp only [Scan.string, List.getElem?_cons_zero, if_true, List.drop_one, List.tail_cons, taken,
    List.length_cons]
  exact if_neg (by omega)

theorem flag_name {c : Cluster} {name rest : List Cluster} (letter : c.isLetter = true)
    (inside : ∀ d ∈ name, d.isAlphanumeric = true) (stops : Stops Cluster.isAlphanumeric rest) :
    Scan.flag (.single '-' :: (c :: name ++ rest)) =
      .accept (.flag (Cluster.joinText (c :: name))) (name.length + 2) := by
  have taken : (c :: name ++ rest).takeWhile Cluster.isAlphanumeric = c :: name := by
    apply takeWhile_run _ stops
    intro d member
    rcases List.mem_cons.mp member with rfl | member
    · exact Cluster.isAlphanumeric_of_isLetter letter
    · exact inside d member
  have size : 1 + (c :: name).length = name.length + 2 := by
    rw [List.length_cons]
    omega
  rw [Scan.flag, if_pos ⟨rfl, letter⟩, List.drop_one, List.tail_cons, taken]
  simp only [size]

/-! ## From the grammar to the scan -/

/-- What the grammar says of the clusters, the scan of some transform says. -/
theorem Literal.exists_scan {cs : List Cluster} {scan : Scan} (literal : Literal cs scan) :
    ∃ t : Transform, t.scan cs = scan := by
  cases literal with
  | endOfInput => exact ⟨.endOfInput, rfl⟩
  | newLine newline => exact ⟨.newLine, if_pos newline⟩
  | lineComment => exact ⟨.comment, rfl⟩
  | blockComment closes =>
    have found := blockEnd?_eq_some_iff.mpr closes
    exact ⟨.comment, by simp [Transform.scan, Scan.comment, found]⟩
  | openComment unclosed =>
    have missing := blockEnd?_eq_none_iff.mpr unclosed
    exact ⟨.comment, by simp [Transform.scan, Scan.comment, missing]⟩
  | boolTrue => exact ⟨.boolean, by simp [Transform.scan, Scan.boolean]⟩
  | boolFalse => exact ⟨.boolean, rfl⟩
  | prefixed negative other nonempty inside stops =>
    refine ⟨.number, Eq.trans ?_ (unsigned_prefixed negative _ other nonempty inside stops)⟩
    -- a mark begins with a zero, so the number begins with a digit
    obtain ⟨letter, mark, _⟩ := exists_letter other
    rw [mark]
    exact number_sign negative (c := .single '0') (by decide) _
  | whole negative digit inside stops plain integral =>
    refine ⟨.number, (number_sign negative digit _).trans ?_⟩
    exact unsigned_whole negative _ digit inside stops plain integral
  | fraction negative digit inside unseparated follows within stops =>
    refine ⟨.number, (number_sign negative digit _).trans ?_⟩
    exact unsigned_fraction negative _ digit inside unseparated follows within stops
  | character content =>
    exact ⟨.character, by simp [Transform.scan, Scan.character, content, Cluster.joinText, Cluster.text]⟩
  | emptyCharacter => exact ⟨.character, rfl⟩
  | crowdedCharacter content unclosed =>
    exact ⟨.character, by simp [Transform.scan, Scan.character, content, unclosed]⟩
  | string inside => exact ⟨.string, string_closed inside⟩
  | openString unclosed => exact ⟨.string, string_open unclosed⟩
  | flag letter inside stops => exact ⟨.flag, flag_name letter inside stops⟩

/-! ## From the scan to the grammar -/

namespace Literal

theorem of_comment {cs : List Cluster} (scans : Scan.comment cs ≠ .decline) :
    Literal cs (Scan.comment cs) := by
  unfold Scan.comment at scans ⊢
  split at scans
  · next first =>
    rw [if_pos first]
    split at scans
    · next second =>
      obtain ⟨body, rfl⟩ := Scan.exists_cons_cons first second
      rw [if_pos second]
      exact lineComment
    · next notLine =>
      rw [if_neg notLine]
      split at scans
      · next second =>
        obtain ⟨body, rfl⟩ := Scan.exists_cons_cons first second
        rw [if_pos second]
        simp only [List.drop_succ_cons, List.drop_zero]
        cases found : Scan.blockEnd? [] body with
        | none => exact openComment (blockEnd?_eq_none_iff.mp found)
        | some result => exact blockComment (blockEnd?_eq_some_iff.mp found)
      · contradiction
  · contradiction

theorem of_boolean {cs : List Cluster} (scans : Scan.boolean cs ≠ .decline) :
    Literal cs (Scan.boolean cs) := by
  unfold Scan.boolean at scans ⊢
  split at scans
  · next begins =>
    rw [if_pos begins]
    obtain ⟨rest, rfl⟩ := begins
    exact boolTrue
  · next notTrue =>
    rw [if_neg notTrue]
    split at scans
    · next begins =>
      rw [if_pos begins]
      obtain ⟨rest, rfl⟩ := begins
      exact boolFalse
    · contradiction

theorem of_character {cs : List Cluster} (scans : Scan.character cs ≠ .decline) :
    Literal cs (Scan.character cs) := by
  unfold Scan.character at scans ⊢
  split at scans
  · next first =>
    rw [if_pos first]
    obtain ⟨rest, rfl⟩ := Scan.exists_cons first
    simp only [List.getElem?_cons_succ, List.length_cons]
    split
    · next second =>
      obtain ⟨rest, rfl⟩ := Scan.exists_cons second
      exact emptyCharacter
    · next content =>
      split
      · next third =>
        -- a third cluster has a second one before it
        obtain ⟨c, rest, rfl⟩ : ∃ c tail, rest = c :: tail := by
          cases rest with
          | nil => contradiction
          | cons c tail => exact ⟨c, tail, rfl⟩
        obtain ⟨rest, rfl⟩ : ∃ tail, rest = _ :: tail := Scan.exists_cons third
        have value : Cluster.joinText [c] = c.text := Cluster.joinText_singleton c
        have other : c ≠ .single '\'' := by
          rintro rfl
          exact content rfl
        simp only [List.drop_succ_cons, List.drop_zero, List.take_succ_cons, List.take_zero, value]
        exact character other
      · next unclosed => exact crowdedCharacter content unclosed
  · contradiction

theorem of_string {cs : List Cluster} (scans : Scan.string cs ≠ .decline) :
    Literal cs (Scan.string cs) := by
  have first : cs[0]? = some (.single '"') := by
    unfold Scan.string at scans
    split at scans
    · next first => exact first
    · contradiction
  obtain ⟨tail, rfl⟩ := Scan.exists_cons first
  -- the remainder begins with the first quote, or there is none
  obtain ⟨body, rest, rfl, inside, stops, _⟩ := exists_run (· ≠ .single '"') tail
  have absent : Cluster.single '"' ∉ body := by
    intro member
    simpa using inside _ member
  cases rest with
  | nil =>
    rw [List.append_nil, string_open absent]
    exact openString absent
  | cons c rest =>
    obtain rfl : c = .single '"' := by simpa using stops
    rw [string_closed absent]
    exact string absent

theorem of_flag {cs : List Cluster} (scans : Scan.flag cs ≠ .decline) :
    Literal cs (Scan.flag cs) := by
  have begins : cs[0]? = some (.single '-') ∧ cs[1]?.any Cluster.isLetter = true := by
    unfold Scan.flag at scans
    split at scans
    · next begins => exact begins
    · contradiction
  obtain ⟨c, second, letter⟩ := (Option.any_eq_true _ _).mp begins.2
  obtain ⟨tail, rfl⟩ := Scan.exists_cons_cons begins.1 second
  obtain ⟨name, rest, rfl, inside, stops, _⟩ := exists_run Cluster.isAlphanumeric tail
  have scan := flag_name letter inside stops
  rw [List.cons_append] at scan
  rw [scan]
  exact flag letter inside stops

theorem exists_sign {cs : List Cluster} (scans : Scan.number cs ≠ .decline) :
    ∃ negative c tail, c.isDigit = true ∧ cs = sign negative ++ c :: tail := by
  unfold Scan.number at scans
  split at scans
  · next negative =>
    split at scans
    · next second =>
      obtain ⟨c, second, digit⟩ := (Option.any_eq_true _ _).mp second
      obtain ⟨tail, rfl⟩ := Scan.exists_cons_cons negative second
      exact ⟨true, c, tail, digit, rfl⟩
    · contradiction
  · split at scans
    · next first =>
      obtain ⟨c, first, digit⟩ := (Option.any_eq_true _ _).mp first
      obtain ⟨tail, rfl⟩ := Scan.exists_cons first
      exact ⟨false, c, tail, digit, rfl⟩
    · contradiction

theorem of_number {cs : List Cluster} (scans : Scan.number cs ≠ .decline) :
    Literal cs (Scan.number cs) := by
  obtain ⟨negative, c, tail, digit, rfl⟩ := exists_sign scans
  rw [number_sign negative digit]
  -- the cuts follow the scan: a mark first, then the digits, then a point and what is behind it
  by_cases selects : ∃ radix, SelectsRadix (c :: tail) radix
  · obtain ⟨radix, other, d, more, continues, split⟩ := selects
    obtain ⟨run, rest, cut, inside, stops, _⟩ := exists_run radix.continues (d :: more)
    have nonempty : run ≠ [] := by
      rintro rfl
      rw [List.nil_append] at cut
      rw [← cut, stops_cons, continues] at stops
      contradiction
    rw [split, cut, unsigned_prefixed negative _ other nonempty inside stops]
    exact prefixed negative other nonempty inside stops
  · have plain : ∀ radix, ¬ SelectsRadix (c :: tail) radix :=
      fun radix selected => selects ⟨radix, selected⟩
    obtain ⟨run, rest, rfl, inside, stops, _⟩ := exists_run Radix.decimal.continues tail
    by_cases point : TakesPoint (c :: run) rest
    · obtain ⟨unseparated, d, more, follows, rfl⟩ := point
      obtain ⟨digits, rest, rfl, within, ends, _⟩ := exists_run Radix.decimal.continues more
      have scan :=
        unsigned_fraction negative (sign negative) digit inside unseparated follows within ends
      rw [List.cons_append, List.cons_append] at scan
      rw [scan]
      exact fraction negative digit inside unseparated follows within ends
    · have scan := unsigned_whole negative (sign negative) digit inside stops plain point
      rw [List.cons_append] at scan
      rw [scan]
      exact whole negative digit inside stops plain point

theorem of_newLine {cs : List Cluster} (scans : Scan.newLine cs ≠ .decline) :
    Literal cs (Scan.newLine cs) := by
  cases cs with
  | nil => contradiction
  | cons c cs =>
    cases newline : c.isNewline with
    | true =>
      simp only [Scan.newLine, newline, if_true]
      exact newLine newline
    | false => simp [Scan.newLine, newline] at scans

theorem of_scan {t : Transform} {cs : List Cluster} (scans : t.scan cs ≠ .decline) :
    Literal cs (t.scan cs) := by
  cases t with
  | whitespace => contradiction
  | endOfInput =>
    cases cs with
    | nil => exact endOfInput
    | cons c cs => contradiction
  | newLine => exact of_newLine scans
  | comment => exact of_comment scans
  | boolean => exact of_boolean scans
  | number => exact of_number scans
  | character => exact of_character scans
  | string => exact of_string scans
  | flag => exact of_flag scans

theorem ne_decline {cs : List Cluster} {scan : Scan} (literal : Literal cs scan) :
    scan ≠ .decline := by
  cases literal with
  | prefixed | whole => apply Scan.integer_ne_decline
  | _ => simp

/-- What the grammar says is what some transform finds.  The grammar says nothing else. -/
theorem iff_scan {cs : List Cluster} {scan : Scan} :
    Literal cs scan ↔ scan ≠ .decline ∧ ∃ t : Transform, t.scan cs = scan := by
  constructor
  · intro literal
    exact ⟨literal.ne_decline, literal.exists_scan⟩
  · rintro ⟨scans, t, rfl⟩
    exact of_scan scans

end Literal

end LiteralLexer
