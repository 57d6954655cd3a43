import LiteralLexer.Text.White

/-!
# Comments as they are written

A comment of several lines gets a number sign in every line that is not empty.
-/

namespace LiteralLexer.Yaml

/-- Whether a line ends here. -/
def atLineStop : List Char → Bool
  | [] => true
  | c :: _ => Text.isLineEnd c

/-- Puts the number signs before the lines of a comment.  A line of a single blank is only a sign. -/
def commentSigns (atStart : Bool) : List Char → List Char
  | [] => []
  | c :: cs =>
    if atStart && !Text.isLineEnd c then
      if c = ' ' && atLineStop cs then '#' :: commentSigns false cs
      else '#' :: c :: commentSigns false cs
    else c :: commentSigns (Text.isLineEnd c) cs

/-- Indents the lines of a comment, apart from those without content. -/
def indentLines (indentation : List Char) (atStart : Bool) : List Char → List Char
  | [] => []
  | c :: cs =>
    let rest := c :: indentLines indentation (Text.isLineEnd c) cs
    if atStart && !atLineStop ((c :: cs).dropWhile (· = ' ')) then indentation ++ rest else rest

/-- A comment on lines of its own. -/
def indentComment (indent : Nat) (comment : List Char) : List Char :=
  if !comment.isEmpty && comment.all (· = '\n') then comment.drop 1
  else indentLines (List.replicate indent ' ') true comment

/-- What a comment adds behind a text. -/
def lineComment (text : List Char) (indent : Nat) (comment : List Char) : List Char :=
  let signed := commentSigns true comment
  if text.getLast? = some '\n' then indentComment indent signed
  else if signed.contains '\n' then '\n' :: indentComment indent signed
  else (if text.getLast? = some ' ' then [] else [' ']) ++ signed

end LiteralLexer.Yaml
