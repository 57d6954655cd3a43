import LiteralLexer.Proofs.Run
import LiteralLexer.Proofs.Scan.Basic
import LiteralLexer.Proofs.Template

/-!
# The grammar of literals

`Literal cs scan` says, without looking at how a text is read, that the clusters `cs` begin with a
literal and what comes of it.  There is one rule for each form of a literal and one for each way in
which a literal can be malformed.  A rule shows the clusters of the literal and what may follow them:
where a literal is as long as possible, the rule says that what follows stops it.
-/

namespace LiteralLexer

/-! ## Faults -/

/-- How a fault is reported: the code of its error, the details by name, and the message with the details
filled in. -/
inductive Fault.Reported : Fault → String → Context → String → Prop where
  | unterminatedComment : Reported .unterminatedComment "LITLEX-L001" []
      "Unterminated block comment: expected `*/`"
  | emptyCharacter : Reported .emptyCharacter "LITLEX-L002"
      [("reason", .text "expected a character between the quotes")]
      "Malformed character literal: expected a character between the quotes"
  | crowdedCharacter : Reported .crowdedCharacter "LITLEX-L002"
      [("reason", .text "expected only one character between the quotes")]
      "Malformed character literal: expected only one character between the quotes"
  | unterminatedString : Reported .unterminatedString "LITLEX-L003" []
      "Unterminated string literal: expected closing `\"`"
  | failedConversion (literal : String) : Reported (.failedConversion literal) "LITLEX-L004"
      [("literal", .text literal), ("target", .text "64-bit integer")]
      ("Could not convert " ++ literal ++ " to 64-bit integer")
  | sentinelInText (sentinel : String) : Reported (.sentinelInText sentinel) "LITLEX-L005"
      [("sentinel", .text (Text.quote sentinel))]
      ("Input contains the end-of-input sentinel " ++ Text.quote sentinel)

namespace Fault

theorem render_malformedCharacter {context : Context} {reason : String}
    (given : context.lookup "reason" = some (.text reason)) :
    Template.render ErrorKind.malformedCharacter.template context =
      "Malformed character literal: " ++ reason := by
  have written : ErrorKind.malformedCharacter.template =
      "Malformed character literal: " ++ ("\x7b" ++ "reason" ++ "\x7d") := by decide +kernel
  rw [written, Template.render_labelled (by decide) (by decide) given]

theorem render_sentinelInText {context : Context} {sentinel : String}
    (given : context.lookup "sentinel" = some (.text sentinel)) :
    Template.render ErrorKind.sentinelInText.template context =
      "Input contains the end-of-input sentinel " ++ sentinel := by
  have written : ErrorKind.sentinelInText.template =
      "Input contains the end-of-input sentinel " ++ ("\x7b" ++ "sentinel" ++ "\x7d") := by decide +kernel
  rw [written, Template.render_labelled (by decide) (by decide) given]

theorem render_failedConversion {context : Context} {literal target : String}
    (given : context.lookup "literal" = some (.text literal))
    (aimed : context.lookup "target" = some (.text target)) :
    Template.render ErrorKind.failedConversion.template context =
      "Could not convert " ++ literal ++ " to " ++ target := by
  have written : ErrorKind.failedConversion.template = Template.printed
      [.text "Could not convert " (by decide), .place "literal" (by decide),
        .text " to " (by decide), .place "target" (by decide)] := by decide +kernel
  rw [written, Template.render_printed]
  simp only [Template.filled_cons, Template.filled_nil, Template.Segment.fill, given, aimed,
    Option.map_some, Option.getD_some, Value.display, String.append_assoc, String.append_empty]

theorem reported (fault : Fault) : fault.Reported fault.kind.code fault.context
    (Template.render fault.kind.template fault.context) := by
  cases fault with
  | unterminatedComment =>
    rw [kind, Template.render_plain (by decide)]
    exact .unterminatedComment
  | emptyCharacter =>
    rw [kind, render_malformedCharacter rfl]
    exact .emptyCharacter
  | crowdedCharacter =>
    rw [kind, render_malformedCharacter rfl]
    exact .crowdedCharacter
  | unterminatedString =>
    rw [kind, Template.render_plain (by decide)]
    exact .unterminatedString
  | failedConversion literal =>
    rw [kind, render_failedConversion rfl rfl, String.append_assoc]
    exact .failedConversion literal
  | sentinelInText sentinel =>
    rw [kind, render_sentinelInText rfl]
    exact .sentinelInText sentinel

end Fault

/-! ## Literals -/

/-- The letters that select a radix, behind their zero. -/
def Radix.mark : Radix → List Cluster
  | .binary => Scan.word "0b"
  | .octal => Scan.word "0o"
  | .decimal => []
  | .hexadecimal => Scan.word "0x"

/-- The sign of a number. -/
def sign (negative : Bool) : List Cluster :=
  if negative then [.single '-'] else []

/-- A block comment whose opening was read ends with the first `size` clusters, and `text` is what
stands before its closing delimiter.  The delimiter is made of characters, not of clusters. -/
structure ClosesAt (body : List Cluster) (text : List Char) (size : Nat) : Prop where
  le_length : size ≤ body.length
  closed : Cluster.join (body.take size) = text ++ ['*', '/']
  first : ∀ n < size, ¬ ['*', '/'] <:+ Cluster.join (body.take n)

/-- A point belongs to the number before it: a digit follows, and no separator stands before. -/
def TakesPoint (whole rest : List Cluster) : Prop :=
  whole.getLast? ≠ some (.single '_') ∧
    ∃ c tail, c.isDigit = true ∧ rest = .single '.' :: c :: tail

/-- The clusters of an unsigned number select a radix. -/
def SelectsRadix (cs : List Cluster) (radix : Radix) : Prop :=
  radix ≠ .decimal ∧ ∃ c tail, radix.continues c = true ∧ cs = radix.mark ++ c :: tail

/-- The clusters begin with a literal, sound or malformed, and what comes of it.  What is malformed is an
open comment, a character that is empty or crowded, an open string, or an integer without digits or
beyond 64 bits; `Fault.Reported` says how these are reported. -/
inductive Literal : List Cluster → Scan → Prop where
  | endOfInput : Literal [] (.accept .endOfInput 0)
  | newLine {c : Cluster} {rest : List Cluster} (newline : c.isNewline = true) :
      Literal (c :: rest) (.accept .newLine 1)
  | lineComment {body : List Cluster} :
      Literal (.single '/' :: .single '/' :: body)
        (.accept (.comment (Cluster.joinText body)) (body.length + 2))
  | blockComment {body : List Cluster} {text : List Char} {size : Nat}
      (closes : ClosesAt body text size) :
      Literal (.single '/' :: .single '*' :: body)
        (.accept (.comment (String.ofList text)) (2 + size))
  | openComment {body : List Cluster}
      (unclosed : ∀ n ≤ body.length, ¬ ['*', '/'] <:+ Cluster.join (body.take n)) :
      Literal (.single '/' :: .single '*' :: body) (.reject .unterminatedComment (body.length + 2))
  | boolTrue {rest : List Cluster} :
      Literal (Scan.word "true" ++ rest) (.accept (.boolean true) 4)
  | boolFalse {rest : List Cluster} :
      Literal (Scan.word "false" ++ rest) (.accept (.boolean false) 5)
  | prefixed (negative : Bool) {radix : Radix} {run rest : List Cluster}
      (other : radix ≠ .decimal) (nonempty : run ≠ [])
      (inside : ∀ c ∈ run, radix.continues c = true) (stops : Stops radix.continues rest) :
      Literal (sign negative ++ (radix.mark ++ (run ++ rest)))
        (.integer (sign negative ++ (radix.mark ++ run)) radix negative run)
  | whole (negative : Bool) {c : Cluster} {run rest : List Cluster} (digit : c.isDigit = true)
      (inside : ∀ d ∈ run, Radix.decimal.continues d = true)
      (stops : Stops Radix.decimal.continues rest)
      (plain : ∀ radix, ¬ SelectsRadix (c :: run ++ rest) radix)
      (integral : ¬ TakesPoint (c :: run) rest) :
      Literal (sign negative ++ (c :: run ++ rest))
        (.integer (sign negative ++ (c :: run)) .decimal negative (c :: run))
  | fraction (negative : Bool) {c d : Cluster} {run more rest : List Cluster}
      (digit : c.isDigit = true) (inside : ∀ e ∈ run, Radix.decimal.continues e = true)
      (unseparated : (c :: run).getLast? ≠ some (.single '_')) (follows : d.isDigit = true)
      (within : ∀ e ∈ more, Radix.decimal.continues e = true)
      (stops : Stops Radix.decimal.continues rest) :
      Literal (sign negative ++ (c :: run ++ .single '.' :: (d :: more ++ rest)))
        (.accept (.floatingPoint (Scan.fractional negative (c :: run) (d :: more)))
          ((sign negative).length + (run.length + 1) + 1 + (more.length + 1)))
  | character {c : Cluster} {rest : List Cluster} (content : c ≠ .single '\'') :
      Literal (.single '\'' :: c :: .single '\'' :: rest) (.accept (.character c.text) 3)
  | emptyCharacter {rest : List Cluster} :
      Literal (.single '\'' :: .single '\'' :: rest) (.reject .emptyCharacter 1)
  | crowdedCharacter {rest : List Cluster} (content : rest[0]? ≠ some (.single '\''))
      (unclosed : rest[1]? ≠ some (.single '\'')) :
      Literal (.single '\'' :: rest) (.reject .crowdedCharacter (min 2 (rest.length + 1)))
  | string {body rest : List Cluster} (inside : Cluster.single '"' ∉ body) :
      Literal (.single '"' :: (body ++ .single '"' :: rest))
        (.accept (.uninterpolatedString (Cluster.joinText body)) (body.length + 2))
  | openString {body : List Cluster} (unclosed : Cluster.single '"' ∉ body) :
      Literal (.single '"' :: body) (.reject .unterminatedString (body.length + 1))
  | flag {c : Cluster} {name rest : List Cluster} (letter : c.isLetter = true)
      (inside : ∀ d ∈ name, d.isAlphanumeric = true) (stops : Stops Cluster.isAlphanumeric rest) :
      Literal (.single '-' :: (c :: name ++ rest))
        (.accept (.flag (Cluster.joinText (c :: name))) (name.length + 2))

namespace Literal

theorem size_le {cs : List Cluster} {scan : Scan} (literal : Literal cs scan) :
    scan.size ≤ cs.length := by
  cases literal with
  | blockComment closes =>
    have := closes.le_length
    simp only [Scan.size, List.length_cons]
    omega
  | prefixed | whole =>
    simp only [Scan.size_integer, List.length_append, List.length_cons]
    omega
  | boolTrue => exact Nat.le_add_left 4 _
  | boolFalse => exact Nat.le_add_left 5 _
  | _ =>
    simp only [Scan.size, List.length_append, List.length_cons, List.length_nil]
    omega

/-- A literal has a cluster, unless it is the end of the text. -/
theorem size_pos {cs : List Cluster} {scan : Scan} (literal : Literal cs scan) :
    (cs = [] ∧ scan = .accept .endOfInput 0) ∨ 0 < scan.size := by
  cases literal with
  | endOfInput => exact .inl ⟨rfl, rfl⟩
  | prefixed negative other nonempty inside stops =>
    right
    have := List.length_pos_iff.mpr nonempty
    simp only [Scan.size_integer, List.length_append]
    omega
  | whole =>
    right
    simp only [Scan.size_integer, List.length_append, List.length_cons]
    omega
  | _ =>
    right
    simp only [Scan.size]
    omega

theorem eq_nil_of_endOfInput {cs : List Cluster} {scan : Scan} {size : Nat}
    (literal : Literal cs scan) (final : scan = .accept .endOfInput size) : cs = [] := by
  cases literal with
  | endOfInput => rfl
  | prefixed | whole => exact absurd final (Scan.integer_ne_endOfInput _ _ _ _ _)
  | _ => simp at final

end Literal

end LiteralLexer
