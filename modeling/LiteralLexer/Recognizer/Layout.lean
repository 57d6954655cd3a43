import LiteralLexer.Recognizer.Basic

/-!
# Blanks, newlines, comments and the end of the text

A comment that opens with `//` runs to the end of the text, newlines included.  One that opens with
`/*` runs up to the next `*/`, which is looked for in the characters read so far and not in whole
clusters.
-/

namespace LiteralLexer.Recognizer

/-- Skips blanks.  Never accepts. -/
def whitespace : Recognizer := fun r => .decline (r.span Cluster.isWhitespace).2

/-- Accepts the sentinel. -/
def endOfInput : Recognizer := fun r =>
  if r.current = r.sentinel then .accept .endOfInput r.next else .decline r

/-- Accepts one newline. -/
def newLine : Recognizer := fun r =>
  if r.current.isNewline then .accept .newLine r.next else .decline r

/-- Reads the body of a block comment.  `body` holds the characters read so far, last one first;
there is no result when the text ends before the comment does. -/
def blockBody : Nat → List Char → Reading → Option (List Char) × Reading
  | _, '/' :: '*' :: body, r => (some body.reverse, r)
  | 0, _, r => (none, r)
  | fuel + 1, body, r =>
    if r.current = r.sentinel then (none, r)
    else blockBody fuel (r.current.toList.reverse ++ body) r.next

/-- Accepts a comment. -/
def comment : Recognizer := fun r =>
  if r.current = Cluster.single '/' then
    if r.ahead 1 = Cluster.single '/' then
      let opened := r.advance 2
      let (body, rest) := opened.span (· ≠ r.sentinel)
      .accept (.comment (Cluster.joinText body)) rest
    else if r.ahead 1 = Cluster.single '*' then
      let opened := r.advance 2
      match blockBody (opened.cursor.remaining + 1) [] opened with
      | (some body, rest) => .accept (.comment (String.ofList body)) rest
      | (none, rest) => .fault r .unterminatedComment rest
    else .decline r
  else .decline r

end LiteralLexer.Recognizer
