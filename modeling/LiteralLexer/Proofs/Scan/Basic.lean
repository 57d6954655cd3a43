import LiteralLexer.Lexer.Transform

/-!
# Scanning a list of clusters

What a transform does at a place of a text depends on the clusters from that place on and on nothing
else: not on the position, not on what lies before it, and not on which sentinel stands behind the
text.  This module gives, for each transform, the function on lists of clusters that it computes.
`Transform.scan` says whether the list begins with a literal, which token that is and how many
clusters it covers.

Whitespace is no literal, so its transform declines here; what it skips is
`List.takeWhile Cluster.isWhitespace`.
-/

namespace LiteralLexer

/-- What a transform makes of the clusters from some place on. -/
inductive Scan where
  /-- No literal of the transform begins here. -/
  | decline
  /-- A literal of the given size, in clusters. -/
  | accept (token : Token) (size : Nat)
  /-- A malformed literal that was given up after the given number of clusters. -/
  | reject (fault : Fault) (size : Nat)
  deriving DecidableEq, Repr

namespace Scan

/-- The number of clusters that were read over. -/
def size : Scan → Nat
  | .decline => 0
  | .accept _ size => size
  | .reject _ size => size

/-! ## First clusters -/

theorem exists_cons {cs : List Cluster} {c : Cluster} (first : cs[0]? = some c) :
    ∃ rest, cs = c :: rest := by
  cases cs with
  | nil => contradiction
  | cons d rest => exact ⟨rest, by simpa using first⟩

theorem exists_cons_cons {cs : List Cluster} {c d : Cluster} (first : cs[0]? = some c)
    (second : cs[1]? = some d) : ∃ rest, cs = c :: d :: rest := by
  obtain ⟨rest, rfl⟩ := exists_cons first
  rw [List.getElem?_cons_succ] at second
  obtain ⟨rest, rfl⟩ := exists_cons second
  exact ⟨rest, rfl⟩

/-! ## Layout -/

def endOfInput : List Cluster → Scan
  | [] => .accept .endOfInput 0
  | _ :: _ => .decline

def newLine : List Cluster → Scan
  | [] => .decline
  | c :: _ => if c.isNewline then .accept .newLine 1 else .decline

/-- Looks for the end of a block comment.  `body` holds the characters read so far, last one first;
the result is the text of the comment and the number of clusters that were read. -/
def blockEnd? : List Char → List Cluster → Option (List Char × Nat)
  | '/' :: '*' :: body, _ => some (body.reverse, 0)
  | _, [] => none
  | body, c :: cs =>
    (blockEnd? (c.toList.reverse ++ body) cs).map fun (text, size) => (text, size + 1)

theorem blockEnd?_closed (body : List Char) (cs : List Cluster) :
    blockEnd? ('/' :: '*' :: body) cs = some (body.reverse, 0) := by
  unfold blockEnd?
  rfl

theorem blockEnd?_nil {body : List Char} (opened : ∀ text, body ≠ '/' :: '*' :: text) :
    blockEnd? body [] = none :=
  blockEnd?.eq_2 body opened

theorem blockEnd?_cons {body : List Char} (opened : ∀ text, body ≠ '/' :: '*' :: text)
    (c : Cluster) (cs : List Cluster) :
    blockEnd? body (c :: cs) =
      (blockEnd? (c.toList.reverse ++ body) cs).map fun (text, size) => (text, size + 1) :=
  blockEnd?.eq_3 body c cs opened

def comment (cs : List Cluster) : Scan :=
  if cs[0]? = some (.single '/') then
    if cs[1]? = some (.single '/') then
      .accept (.comment (Cluster.joinText (cs.drop 2))) cs.length
    else if cs[1]? = some (.single '*') then
      match blockEnd? [] (cs.drop 2) with
      | some (text, size) => .accept (.comment (String.ofList text)) (2 + size)
      | none => .reject .unterminatedComment cs.length
    else .decline
  else .decline

/-! ## Words -/

/-- The clusters of a word, one for each letter. -/
def word (text : String) : List Cluster := text.toList.map Cluster.single

def boolean (cs : List Cluster) : Scan :=
  if word "true" <+: cs then .accept (.boolean true) 4
  else if word "false" <+: cs then .accept (.boolean false) 5
  else .decline

/-! ## Numbers -/

/-- The outcome for an integer with the given lexeme. -/
def integer (lexeme : List Cluster) (radix : Radix) (negative : Bool) (run : List Cluster) : Scan :=
  match Recognizer.toInteger? radix negative (Recognizer.withoutSeparators run) with
  | some n => .accept (.integer n) lexeme.length
  | none => .reject (.failedConversion (Cluster.joinText lexeme)) lexeme.length

@[simp] theorem size_integer (lexeme : List Cluster) (radix : Radix) (negative : Bool)
    (run : List Cluster) : (integer lexeme radix negative run).size = lexeme.length := by
  unfold integer
  split <;> rfl

theorem integer_ne_decline (lexeme : List Cluster) (radix : Radix) (negative : Bool)
    (run : List Cluster) : integer lexeme radix negative run ≠ .decline := by
  unfold integer
  split <;> simp

theorem integer_ne_endOfInput (lexeme : List Cluster) (radix : Radix) (negative : Bool)
    (run : List Cluster) (size : Nat) :
    integer lexeme radix negative run ≠ .accept .endOfInput size := by
  unfold integer
  split <;> simp

/-- The value of a number with a fraction. -/
def fractional (negative : Bool) (whole fraction : List Cluster) : Binary64 :=
  let digits := Recognizer.withoutSeparators fraction
  .ofDecimal negative
    (Radix.decimal.value (Recognizer.withoutSeparators whole ++ digits)) (-digits.length)

/-- The radix that is selected by the first clusters of an unsigned number. -/
def selectedRadix? (cs : List Cluster) : Option Radix :=
  if cs[0]? = some (.single '0') then
    (cs[1]?.bind Radix.ofLetter?).filter fun radix => cs[2]?.any radix.continues
  else none

theorem selectedRadix?_eq_some {cs : List Cluster} {radix : Radix}
    (selected : selectedRadix? cs = some radix) :
    cs[0]? = some (.single '0') ∧ (∃ letter, cs[1]? = some letter ∧
      Radix.ofLetter? letter = some radix) ∧ ∃ c, cs[2]? = some c ∧ radix.continues c = true := by
  unfold selectedRadix? at selected
  split at selected
  · next zero =>
    obtain ⟨letter, continues⟩ := Option.filter_eq_some_iff.mp selected
    exact ⟨zero, Option.bind_eq_some_iff.mp letter, (Option.any_eq_true _ _).mp continues⟩
  · contradiction

/-- Whether a fraction follows the digits before a point. -/
def atFraction (whole rest : List Cluster) : Bool :=
  rest[0]? = some (.single '.') && whole.getLast? ≠ some (.single '_') && rest[1]?.any Cluster.isDigit

theorem atFraction_iff {whole rest : List Cluster} :
    atFraction whole rest = true ↔ rest[0]? = some (.single '.') ∧
      whole.getLast? ≠ some (.single '_') ∧ ∃ c, rest[1]? = some c ∧ c.isDigit = true := by
  simp only [atFraction, Bool.and_eq_true, decide_eq_true_eq, Option.any_eq_true, and_assoc]

/-- Scans a number whose sign covers the first `sign` clusters. -/
def unsigned (negative : Bool) (sign : Nat) (cs : List Cluster) : Scan :=
  let body := cs.drop sign
  match selectedRadix? body with
  | some radix =>
    let run := (body.drop 2).takeWhile radix.continues
    integer (cs.take (sign + 2 + run.length)) radix negative run
  | none =>
    let whole := body.takeWhile Radix.decimal.continues
    let rest := body.drop whole.length
    if atFraction whole rest then
      let fraction := (rest.drop 1).takeWhile Radix.decimal.continues
      .accept (.floatingPoint (fractional negative whole fraction))
        (sign + whole.length + 1 + fraction.length)
    else integer (cs.take (sign + whole.length)) .decimal negative whole

def number (cs : List Cluster) : Scan :=
  if cs[0]? = some (.single '-') then
    if cs[1]?.any Cluster.isDigit then unsigned true 1 cs else .decline
  else if cs[0]?.any Cluster.isDigit then unsigned false 0 cs
  else .decline

/-! ## Quoted literals and flags -/

def character (cs : List Cluster) : Scan :=
  if cs[0]? = some (.single '\'') then
    if cs[1]? = some (.single '\'') then .reject .emptyCharacter 1
    else if cs[2]? = some (.single '\'') then
      .accept (.character (Cluster.joinText ((cs.drop 1).take 1))) 3
    else .reject .crowdedCharacter (min 2 cs.length)
  else .decline

def string (cs : List Cluster) : Scan :=
  if cs[0]? = some (.single '"') then
    let body := (cs.drop 1).takeWhile (· ≠ .single '"')
    if 1 + body.length < cs.length then
      .accept (.uninterpolatedString (Cluster.joinText body)) (1 + body.length + 1)
    else .reject .unterminatedString cs.length
  else .decline

def flag (cs : List Cluster) : Scan :=
  if cs[0]? = some (.single '-') ∧ cs[1]?.any Cluster.isLetter then
    let name := (cs.drop 1).takeWhile Cluster.isAlphanumeric
    .accept (.flag (Cluster.joinText name)) (1 + name.length)
  else .decline

end Scan

/-- The function on lists of clusters that a transform computes. -/
def Transform.scan : Transform → List Cluster → Scan
  | .whitespace => fun _ => .decline
  | .endOfInput => Scan.endOfInput
  | .newLine => Scan.newLine
  | .comment => Scan.comment
  | .boolean => Scan.boolean
  | .number => Scan.number
  | .character => Scan.character
  | .string => Scan.string
  | .flag => Scan.flag

end LiteralLexer
