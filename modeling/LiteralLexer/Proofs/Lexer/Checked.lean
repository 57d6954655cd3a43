import LiteralLexer.Proofs.Lexer.Progress

/-!
# Lexing with every number checked

Hosts hand in strides and positions as numbers, which `Cursor.read` and `Cursor.seek` check; the
recognizers read without a check.  This module runs them with it.  `Cursor.read?` and `Cursor.seek?` are
those checks on whole numbers (`Cursor.read_eq`, `Cursor.seek_eq`); each operation of a reading and each
recognizer is done once more over them, and there is no result as soon as a number is refused.

None ever is (`tokenize?_eq`).  No stride is below 1, whatever is read, so a recognizer with checks is the
recognizer itself; and a step that gives up on a literal has read from a place of the text on, so the
position that it is held to is one, too.
-/

namespace LiteralLexer

/-! ## Cursors -/

namespace Cursor

/-- Reads with a stride, unless it is refused. -/
def read? (c : Cursor) (stride : Int) (keep : Bool) : Option (Cluster × Cursor) :=
  if 1 ≤ stride then some (if keep then (c.peek stride.toNat, c) else c.advance stride.toNat)
  else none

/-- Moves to a position, unless it is refused. -/
def seek? (c : Cursor) (position : Int) : Option Cursor :=
  if 0 ≤ position ∧ position ≤ c.length then some { c with position } else none

/-- What is refused as a stride is what has no whole number to read with. -/
theorem read_eq (c : Cursor) (stride : Binary64) (keep : Bool) :
    c.read stride keep =
      match stride.toInt?.bind (c.read? · keep) with
      | some found => .ok found
      | none => .error (.badStride stride) := by
  cases whole : stride.toInt? with
  | none => simp only [read, checkStride, whole]; rfl
  | some n =>
    simp only [read, checkStride, whole, Option.bind_some, read?]
    split <;> rfl

theorem seek_eq (c : Cursor) (position : Binary64) :
    c.seek position =
      match position.toInt?.bind c.seek? with
      | some moved => .ok moved
      | none => .error (.badPosition c.length position) := by
  cases whole : position.toInt? with
  | none => simp only [seek, whole]; rfl
  | some n =>
    simp only [seek, whole, Option.bind_some, seek?]
    split <;> rfl

theorem read?_keep (c : Cursor) {n : Nat} (positive : 0 < n) :
    c.read? n true = some (c.peek n, c) :=
  if_pos (Int.ofNat_le.mpr positive)

theorem read?_advance (c : Cursor) {n : Nat} (positive : 0 < n) :
    c.read? n false = some (c.advance n) :=
  if_pos (Int.ofNat_le.mpr positive)

/-- A cursor that is not before the text can be held within it. -/
theorem seek?_cap {c : Cursor} (nonneg : 0 ≤ c.position) :
    c.seek? (min c.position c.length) = some c.cap := by
  refine if_pos ⟨?_, Int.min_le_right _ _⟩
  exact Int.le_min.mpr ⟨nonneg, Int.natCast_nonneg _⟩

end Cursor

/-! ## Readings -/

namespace Reading

/-- Reads the first cluster. -/
def start? (cursor : Cursor) : Option Reading := do
  let (current, cursor) ← cursor.read? 1 false
  return { cursor, current }

/-- Reads one cluster on. -/
def next? (r : Reading) : Option Reading := start? r.cursor

/-- Reads on by a stride, which must not be 0. -/
def advance? (r : Reading) (stride : Nat) : Option Reading := do
  let (current, cursor) ← r.cursor.read? stride false
  return { cursor, current }

/-- Looks at a cluster further on.  The current one needs no reading. -/
def ahead? (r : Reading) : Nat → Option Cluster
  | 0 => some r.current
  | distance => (r.cursor.read? distance true).map Prod.fst

/-- Reads on while a property holds, over a limited number of clusters. -/
def spanWithin? (keep : Cluster → Bool) : Nat → Reading → Option (List Cluster × Reading)
  | 0, r => some ([], r)
  | fuel + 1, r =>
    if keep r.current then do
      let (run, rest) ← spanWithin? keep fuel (← r.next?)
      return (r.current :: run, rest)
    else some ([], r)

/-- Reads on while a property holds. -/
def span? (r : Reading) (keep : Cluster → Bool) : Option (List Cluster × Reading) :=
  r.spanWithin? keep (r.cursor.remaining + 1)

/-- Whether a word stands here. -/
def spells? (r : Reading) (word : String) : Option Bool := do
  let clusters ← (List.range word.toList.length).mapM r.ahead?
  return clusters = word.toList.map Cluster.single

@[simp] theorem start?_eq (cursor : Cursor) : start? cursor = some (start cursor) := by
  have read : cursor.read? 1 false = some cursor.next := cursor.read?_advance Nat.one_pos
  rw [start?, read]
  rfl

@[simp] theorem next?_eq (r : Reading) : r.next? = some r.next := start?_eq r.cursor

@[simp] theorem advance?_eq (r : Reading) {n : Nat} (positive : 0 < n) :
    r.advance? n = some (r.advance n) := by
  rw [advance?, r.cursor.read?_advance positive]
  rfl

@[simp] theorem ahead?_eq (r : Reading) (n : Nat) : r.ahead? n = some (r.ahead n) := by
  cases n with
  | zero => rfl
  | succ n =>
    rw [ahead?, r.cursor.read?_keep n.succ_pos]
    · rfl
    · exact n.succ_ne_zero

@[simp] theorem spanWithin?_eq (keep : Cluster → Bool) (fuel : Nat) (r : Reading) :
    r.spanWithin? keep fuel = some (r.spanWithin keep fuel) := by
  induction fuel generalizing r with
  | zero => rfl
  | succ fuel ih =>
    simp only [spanWithin?, spanWithin, next?_eq]
    split
    · simp [ih]
    · rfl

@[simp] theorem span?_eq (r : Reading) (keep : Cluster → Bool) :
    r.span? keep = some (r.span keep) :=
  spanWithin?_eq keep _ r

@[simp] theorem spells?_eq (r : Reading) (word : String) : r.spells? word = some (r.spells word) := by
  have pure : r.ahead? = fun n => Pure.pure (r.ahead n) := funext r.ahead?_eq
  rw [spells?, pure, List.mapM_pure]
  rfl

end Reading

/-! ## Recognizers -/

namespace Recognizer

/-- Reads over blanks. -/
def whitespace? (r : Reading) : Option Verdict := do
  let (_, rest) ← r.span? Cluster.isWhitespace
  return .decline rest

theorem whitespace?_eq (r : Reading) : whitespace? r = some (whitespace r) := by
  simp [whitespace?, whitespace]

/-- Recognizes the sentinel. -/
def endOfInput? (r : Reading) : Option Verdict :=
  if r.current = r.sentinel then r.next?.map (.accept .endOfInput) else some (.decline r)

theorem endOfInput?_eq (r : Reading) : endOfInput? r = some (endOfInput r) := by
  simp only [endOfInput?, endOfInput, Reading.next?_eq]
  split <;> rfl

/-- Recognizes a line break. -/
def newLine? (r : Reading) : Option Verdict :=
  if r.current.isNewline then r.next?.map (.accept .newLine) else some (.decline r)

theorem newLine?_eq (r : Reading) : newLine? r = some (newLine r) := by
  simp only [newLine?, newLine, Reading.next?_eq]
  split <;> rfl

/-- Reads the body of a block comment up to its closing delimiter, if it has one. -/
def blockBody? : Nat → List Char → Reading → Option (Option (List Char) × Reading)
  | _, '/' :: '*' :: body, r => some (some body.reverse, r)
  | 0, _, r => some (none, r)
  | fuel + 1, body, r =>
    if r.current = r.sentinel then some (none, r)
    else do blockBody? fuel (r.current.toList.reverse ++ body) (← r.next?)

theorem blockBody?_eq (fuel : Nat) (body : List Char) (r : Reading) :
    blockBody? fuel body r = some (blockBody fuel body r) := by
  fun_induction blockBody fuel body r with
  | case1 => simp [blockBody?]
  | case2 => simp [blockBody?, *]
  | case3 => simp [blockBody?, *]
  | case4 => simp [blockBody?, *]

/-- Recognizes a comment. -/
def comment? (r : Reading) : Option Verdict :=
  if r.current = Cluster.single '/' then do
    let marker ← r.ahead? 1
    if marker = Cluster.single '/' then
      let (body, rest) ← (← r.advance? 2).span? (· ≠ r.sentinel)
      return .accept (.comment (Cluster.joinText body)) rest
    else if marker = Cluster.single '*' then
      let opened ← r.advance? 2
      match ← blockBody? (opened.cursor.remaining + 1) [] opened with
      | (some body, rest) => return .accept (.comment (String.ofList body)) rest
      | (none, rest) => return .fault r .unterminatedComment rest
    else return .decline r
  else some (.decline r)

theorem comment?_eq (r : Reading) : comment? r = some (comment r) := by
  unfold comment? comment
  -- once the reads are replaced, both sides branch alike
  simp only [Reading.ahead?_eq, Reading.advance?_eq r Nat.two_pos, Reading.span?_eq,
    blockBody?_eq, Option.bind_eq_bind, Option.bind_some, Option.pure_def]
  split
  · split
    · rfl
    · split
      · rcases blockBody _ _ _ with ⟨_ | body, rest⟩ <;> rfl
      · rfl
  · rfl

/-- Recognizes `true` and `false`. -/
def boolean? (r : Reading) : Option Verdict := do
  if ← r.spells? "true" then return .accept (.boolean true) (← r.advance? 4)
  if ← r.spells? "false" then return .accept (.boolean false) (← r.advance? 5)
  return .decline r

theorem boolean?_eq (r : Reading) : boolean? r = some (boolean r) := by
  simp only [boolean?, boolean, Reading.spells?_eq]
  cases r.spells "true" <;> cases r.spells "false" <;> simp

/-- Recognizes a character between single quotes. -/
def character? (r : Reading) : Option Verdict :=
  if r.current = Cluster.single '\'' then do
    let content ← r.next?
    if content.current = Cluster.single '\'' then return .fault r .emptyCharacter content
    let closing ← content.next?
    if closing.current = Cluster.single '\'' then
      return .accept (.character content.current.text) (← closing.next?)
    return .fault r .crowdedCharacter closing
  else some (.decline r)

theorem character?_eq (r : Reading) : character? r = some (character r) := by
  simp only [character?, character, Reading.next?_eq, Option.bind_eq_bind, Option.bind_some,
    Option.pure_def]
  split_ifs <;> rfl

/-- Recognizes a text between double quotes. -/
def string? (r : Reading) : Option Verdict :=
  if r.current = Cluster.single '"' then do
    let opened ← r.next?
    let (body, closing) ← opened.span? fun c => c ≠ Cluster.single '"' && c ≠ r.sentinel
    if closing.current = Cluster.single '"' then
      return .accept (.uninterpolatedString (Cluster.joinText body)) (← closing.next?)
    return .fault r .unterminatedString closing
  else some (.decline r)

theorem string?_eq (r : Reading) : string? r = some (string r) := by
  simp only [string?, string, Reading.next?_eq, Reading.span?_eq, Option.bind_eq_bind,
    Option.bind_some, Option.pure_def]
  split_ifs <;> rfl

/-- Recognizes a flag. -/
def flag? (r : Reading) : Option Verdict := do
  if r.current = Cluster.single '-' then
    if (← r.ahead? 1).isLetter then
      let (name, rest) ← (← r.next?).span? Cluster.isAlphanumeric
      return .accept (.flag (Cluster.joinText name)) rest
  return .decline r

theorem flag?_eq (r : Reading) : flag? r = some (flag r) := by
  simp only [flag?, flag, Reading.next?_eq, Reading.span?_eq, Reading.ahead?_eq,
    Option.bind_eq_bind, Option.bind_some, Option.pure_def]
  by_cases dash : r.current = Cluster.single '-'
  · cases (r.ahead 1).isLetter <;> simp [dash]
  · simp [dash]

/-- The radix that is selected here.  Both clusters behind the current one are looked at, whatever it is. -/
def radixAt? (r : Reading) : Option (Option Radix) := do
  let letter ← r.ahead? 1
  let behind ← r.ahead? 2
  return if r.current = Cluster.single '0' then
    (Radix.ofLetter? letter).filter fun radix => radix.continues behind
  else none

theorem radixAt?_eq (r : Reading) : radixAt? r = some (selectedRadix? r) := by
  simp only [radixAt?, selectedRadix?, Reading.ahead?_eq, Option.bind_eq_bind, Option.bind_some,
    Option.pure_def]

/-- Whether the point of a fraction stands here, behind the whole part. -/
def atFraction? (whole : List Cluster) (r : Reading) : Option Bool := do
  let following ← r.ahead? 1
  return r.current = Cluster.single '.' && whole.getLast? ≠ some (Cluster.single '_')
    && following.isDigit

theorem atFraction?_eq (whole : List Cluster) (r : Reading) :
    atFraction? whole r = some (atFraction whole r) := by
  simp only [atFraction?, atFraction, Reading.ahead?_eq, Option.bind_eq_bind, Option.bind_some,
    Option.pure_def]

/-- Recognizes a number behind its sign. -/
def numberFrom? (start : Reading) (negative : Bool) (unsigned : Reading) : Option Verdict := do
  match ← radixAt? unsigned with
  | some radix =>
    let (run, rest) ← (← unsigned.advance? 2).span? radix.continues
    return integerVerdict start radix negative run rest
  | none =>
    let (whole, rest) ← unsigned.span? Radix.decimal.continues
    if ← atFraction? whole rest then
      let (fraction, rest) ← (← rest.next?).span? Radix.decimal.continues
      let wholeDigits := withoutSeparators whole
      let fractionDigits := withoutSeparators fraction
      let digits := Radix.decimal.value (wholeDigits ++ fractionDigits)
      return .accept (.floatingPoint (.ofDecimal negative digits (-fractionDigits.length))) rest
    else return integerVerdict start .decimal negative whole rest

theorem numberFrom?_eq (start : Reading) (negative : Bool) (unsigned : Reading) :
    numberFrom? start negative unsigned = some (numberFrom start negative unsigned) := by
  simp only [numberFrom?, numberFrom, radixAt?_eq, atFraction?_eq, Reading.next?_eq,
    Reading.advance?_eq unsigned Nat.two_pos, Reading.span?_eq, Option.bind_eq_bind,
    Option.bind_some, Option.pure_def]
  cases selectedRadix? unsigned with
  | some radix => rfl
  | none =>
    simp only
    split <;> rfl

/-- Recognizes a number. -/
def number? (r : Reading) : Option Verdict := do
  let negative : Bool := r.current = Cluster.single '-'
  let first ← if negative then r.ahead? 1 else some r.current
  if first.isDigit then numberFrom? r negative (← if negative then r.next? else some r)
  else return .decline r

theorem number?_eq (r : Reading) : number? r = some (number r) := by
  simp only [number?, number, Reading.next?_eq, Reading.ahead?_eq, numberFrom?_eq,
    Option.bind_eq_bind, Option.pure_def]
  by_cases negative : r.current = Cluster.single '-'
  · simp only [negative, decide_true, if_true, Option.bind_some]
    split <;> rfl
  · simp only [negative, decide_false, Bool.false_eq_true, if_false, Option.bind_some]
    split <;> rfl

end Recognizer

/-! ## Stages and steps -/

/-- The recognizer of a transform, with every stride checked. -/
def Transform.recognizer? : Transform → Reading → Option Verdict
  | .whitespace => Recognizer.whitespace?
  | .endOfInput => Recognizer.endOfInput?
  | .newLine => Recognizer.newLine?
  | .comment => Recognizer.comment?
  | .boolean => Recognizer.boolean?
  | .number => Recognizer.number?
  | .character => Recognizer.character?
  | .string => Recognizer.string?
  | .flag => Recognizer.flag?

theorem Transform.recognizer?_eq (t : Transform) (r : Reading) :
    t.recognizer? r = some (t.recognizer r) := by
  cases t with
  | whitespace => exact Recognizer.whitespace?_eq r
  | endOfInput => exact Recognizer.endOfInput?_eq r
  | newLine => exact Recognizer.newLine?_eq r
  | comment => exact Recognizer.comment?_eq r
  | boolean => exact Recognizer.boolean?_eq r
  | number => exact Recognizer.number?_eq r
  | character => exact Recognizer.character?_eq r
  | string => exact Recognizer.string?_eq r
  | flag => exact Recognizer.flag?_eq r

namespace Stage

/-- The recognizer of a stage, with every stride checked.  What a recognizer of the host's own reads is not
known. -/
def recognizer? : Stage → Reading → Option Verdict
  | .builtin transform => transform.recognizer?
  | .host recognizer => fun r => some (recognizer r)

/-- Offers a reading to the stages in order, with every stride checked. -/
def offer? : List Stage → Reading → Option Verdict
  | [], r => some (.decline r)
  | stage :: stages, r => do
    match ← stage.recognizer? r with
    | .decline r => offer? stages r
    | verdict => return verdict

theorem recognizer?_eq (stage : Stage) (r : Reading) :
    stage.recognizer? r = some (stage.recognizer r) := by
  cases stage with
  | builtin transform => exact transform.recognizer?_eq r
  | host => rfl

theorem offer?_eq (stages : List Stage) (r : Reading) :
    offer? stages r = some (offer stages r) := by
  induction stages generalizing r with
  | nil => rfl
  | cons stage stages ih =>
    simp only [offer?, offer, recognizer?_eq, Option.bind_eq_bind, Option.bind_some]
    cases stage.recognizer r with
    | decline r => exact ih r
    | accept => rfl
    | reject => rfl

end Stage

namespace Lexer

/-- The next token, with every stride and every position checked. -/
def nextToken? (l : Lexer) : Option (Except LexFailure Token × Lexer) := do
  match ← Stage.offer? l.stages (← Reading.start? l.cursor) with
  | .accept token r => return (.ok token, { l with cursor := r.cursor.rewind 1 })
  | .reject failure r =>
    -- the one move to a position that the lexer makes itself
    let cursor ← r.cursor.seek? (min r.cursor.position r.cursor.length)
    return (.error failure, { l with cursor })
  | .decline r =>
    let (token, r) := l.fallback r
    return (.ok token, { l with cursor := r.cursor })

/-- The tokens up to the end of the text, in at most so many steps, with every number checked. -/
def tokensWithin? : Nat → Lexer → Option (Except LexFailure (List Token))
  | 0, _ => some (.error .endless)
  | fuel + 1, l => do
    match ← l.nextToken? with
    | (.error failure, _) => return .error failure
    | (.ok .endOfInput, _) => return .ok [.endOfInput]
    | (.ok token, l) => return (← tokensWithin? fuel l).map (token :: ·)

/-- The tokens up to the end of the text, with every number checked. -/
def tokens? (l : Lexer) : Option (Except LexFailure (List Token)) :=
  l.tokensWithin? (l.cursor.length + 2)

/-- A step is refused only if it gives up before the text. -/
theorem nextToken?_eq {l : Lexer}
    (nonneg : ∀ failure r, Stage.offer l.stages (Reading.start l.cursor) = .reject failure r →
      0 ≤ r.cursor.position) : l.nextToken? = some l.nextToken := by
  simp only [nextToken?, nextToken, Reading.start?_eq, Stage.offer?_eq, Option.bind_eq_bind,
    Option.bind_some]
  cases offered : Stage.offer l.stages (Reading.start l.cursor) with
  | accept => rfl
  | decline => rfl
  | reject failure r =>
    simp only [Cursor.seek?_cap (nonneg failure r offered), Option.bind_some, Option.pure_def]

variable {ts : List Transform} {s : Source} {p : Nat}

/-- A literal is given up at the end of what was read of it, so behind the beginning of the text. -/
theorem nextToken?_running (inert : s.sentinel.Inert) (bound : p ≤ s.length + 1) :
    (running ts s p).nextToken? = some (running ts s p).nextToken := by
  -- also an exhausted lexer begins with a cluster at a place of the text, the sentinel
  obtain ⟨start, within, begins⟩ : ∃ start ≤ s.length,
      Reading.start (running ts s p).cursor = s.reading start := by
    obtain inside | rfl : p ≤ s.length ∨ p = s.length + 1 := by omega
    · exact ⟨p, inside, Source.start_reading inside⟩
    · exact ⟨s.length, Nat.le_refl _, Source.start_exhausted⟩
  refine nextToken?_eq fun failure r rejected => ?_
  obtain ⟨q, scan, _, _, offered, _⟩ := Stage.offer_cases inert within ts
  rw [begins] at rejected
  have verdict : scan.verdict s q = .reject failure r := offered.symm.trans rejected
  cases scan with
  | decline => contradiction
  | accept => contradiction
  | reject fault size =>
    cases verdict
    simp only [Source.reading]
    omega

theorem tokensWithin?_running (inert : s.sentinel.Inert) (noticed : .endOfInput ∈ ts)
    (bound : p ≤ s.length + 1) (fuel : Nat) :
    (running ts s p).tokensWithin? fuel = some ((running ts s p).tokensWithin fuel) := by
  induction fuel generalizing p with
  | zero => rfl
  | succ fuel ih =>
    -- a step with checks leads where the step does, so the rest of the run begins at the same place
    obtain ⟨outcome, stop, step, advances⟩ := nextToken_advances inert noticed bound
    have checked : (running ts s p).nextToken? = _ := nextToken?_running inert bound
    rw [step] at checked
    cases advances with
    | fails =>
      rw [tokensWithin_error (by rw [step])]
      simp only [tokensWithin?, checked, Option.bind_eq_bind, Option.bind_some, Option.pure_def]
    | ends =>
      rw [tokensWithin_endOfInput (by rw [step])]
      simp only [tokensWithin?, checked, Option.bind_eq_bind, Option.bind_some, Option.pure_def]
    | moves inner inside ahead within =>
      rw [tokensWithin_token step inner]
      simp only [tokensWithin?, checked, ih within, Option.bind_eq_bind, Option.bind_some,
        Option.pure_def]

end Lexer

/-! ## Texts -/

/-- The tokens of a text, with every number checked. -/
def tokenize? (text : String) (options : LexerOptions) (includeComments : Bool) :
    Option (Except LexFailure (List Token)) :=
  match Lexer.ofText text options with
  | .error failure => some (.error failure)
  | .ok lexer => do return (← lexer.tokens?).map (filterComments includeComments)

variable {ts : List Transform} {text sentinel : String} {mark : Cluster}

/-- No stride and no position is refused. -/
theorem tokenize?_eq (noticed : .endOfInput ∈ ts) (alone : Cluster.ofText? sentinel = some mark)
    (inert : mark.Inert) (includeComments : Bool) :
    tokenize? text { stages := ts.map .builtin, sentinel } includeComments =
      some (tokenize text { stages := ts.map .builtin, sentinel } includeComments) := by
  by_cases present : mark ∈ Cluster.ofText text
  · rw [tokenize?, tokenize, Lexer.ofText_refused noticed alone present]
    rfl
  · obtain ⟨s, _, rfl, opened⟩ := Lexer.ofText_running noticed alone present
    rw [tokenize_eq opened, tokenize?, opened]
    simp only [Lexer.tokens?, Lexer.tokensWithin?_running inert noticed (Nat.zero_le _)]
    rfl

/-- A text has tokens, or it is at fault. -/
theorem tokenize_total (noticed : .endOfInput ∈ ts) (alone : Cluster.ofText? sentinel = some mark)
    (inert : mark.Inert) (includeComments : Bool) :
    (∃ tokens, tokenize text { stages := ts.map .builtin, sentinel } includeComments = .ok tokens) ∨
      ∃ found, tokenize text { stages := ts.map .builtin, sentinel } includeComments =
        .error (.malformed found) := by
  by_cases present : mark ∈ Cluster.ofText text
  · rw [tokenize, Lexer.ofText_refused noticed alone present]
    exact .inr ⟨_, rfl⟩
  · obtain ⟨s, _, rfl, opened⟩ := Lexer.ofText_running noticed alone present
    rw [tokenize_eq opened]
    rcases (Lexer.terminates_running inert noticed).tokens with ⟨found, run⟩ | ⟨inner, run, _⟩
    · exact .inr ⟨found, by rw [run]; rfl⟩
    · exact .inl ⟨_, by rw [run]; rfl⟩

end LiteralLexer
