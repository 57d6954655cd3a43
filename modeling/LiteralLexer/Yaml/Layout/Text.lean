import LiteralLexer.Text.Quoted
import LiteralLexer.Yaml.Layout.Fold
import LiteralLexer.Yaml.Lexeme.Basic
import LiteralLexer.Yaml.Node.Basic
import LiteralLexer.Yaml.Schema.Basic

/-!
# Texts as they are written inside a flow collection

A text keeps the style in which it was read as far as that can hold it: what a plain text would not
be read back as goes into quotes, and what single quotes cannot hold into double quotes.
-/

namespace LiteralLexer.Yaml

/-- Where a text is written. -/
structure TextPlace where
  schema : Schema
  /-- The indentation of further lines. -/
  indent : Nat
  /-- How far the line is filled already. -/
  atStart : Option Nat := none
  /-- The text is a key and has to stay in one line. -/
  isKey : Bool := false

namespace TextPlace

/-- Breaks a text into lines, unless it is a key. -/
def fold (place : TextPlace) (isQuoted : Bool) (text : List Char) : List Char :=
  if place.isKey then text else foldText isQuoted place.indent place.atStart text

/-- The blanks before a further line. -/
def indentation (place : TextPlace) : List Char := List.replicate place.indent ' '

end TextPlace

/-! ## Double quotes -/

/-- The escape for the code of a character in four hexadecimal digits. -/
def shortEscape (code : List Char) : List Char :=
  if code = "0000".toList then ['\\', '0']
  else if code = "0007".toList then ['\\', 'a']
  else if code = "000b".toList then ['\\', 'v']
  else if code = "001b".toList then ['\\', 'e']
  else if code.take 2 = ['0', '0'] then '\\' :: 'x' :: code.drop 2
  else '\\' :: 'u' :: code

/-- Line breaks that follow each other and are not the last ones. -/
def moreBreaks : List Char → Nat
  | '\\' :: 'n' :: c :: cs => if c = '"' then 0 else moreBreaks (c :: cs) + 1
  | ['\\', 'n'] => 1
  | _ => 0

/-- Lays out a text that is quoted already.  Line breaks stand for themselves if `breaks`, with an
empty line for the one that folding takes away; blanks next to them are escaped. -/
def layoutQuoted (breaks : Bool) (indentation : List Char) : Nat → List Char → List Char
  | 0, cs => cs
  | fuel + 1, ' ' :: '\\' :: 'n' :: cs =>
    '\\' :: ' ' :: layoutQuoted breaks indentation fuel ('\\' :: 'n' :: cs)
  | fuel + 1, '\\' :: 'n' :: cs =>
    if !breaks || cs.head? = some '"' then '\\' :: 'n' :: layoutQuoted breaks indentation fuel cs
    else
      let count := moreBreaks cs
      let rest := cs.drop (2 * count)
      let escaped := if rest.head? = some ' ' then ['\\'] else []
      List.replicate (count + 2) '\n' ++ indentation ++ escaped
        ++ layoutQuoted breaks indentation fuel rest
  | fuel + 1, '\\' :: 'u' :: a :: b :: c :: d :: cs =>
    shortEscape [a, b, c, d] ++ layoutQuoted breaks indentation fuel cs
  | fuel + 1, '\\' :: c :: cs => '\\' :: c :: layoutQuoted breaks indentation fuel cs
  | fuel + 1, c :: cs => c :: layoutQuoted breaks indentation fuel cs
  | _ + 1, [] => []

/-- The length from which on line breaks in double quotes stand for themselves. -/
def multilineLength : Nat := 40

/-- A text in double quotes. -/
def doubleQuoted (place : TextPlace) (text : String) : List Char :=
  let quoted := (Text.quote text).toList
  let breaks := !place.isKey && multilineLength ≤ Text.unitCount quoted
  place.fold true (layoutQuoted breaks place.indentation (2 * quoted.length + 1) quoted)

/-! ## Other styles -/

/-- Writes line breaks so that folding keeps them: one more for every group of them. -/
def spreadBreaks (indentation : List Char) : List Char → List Char
  | [] => []
  | c :: cs =>
    let rest := spreadBreaks indentation cs
    if c = '\n' && cs.head? ≠ some '\n' then '\n' :: '\n' :: indentation ++ rest else c :: rest

/-- Whether some two characters follow each other. -/
def hasPair (p : Char → Char → Bool) : List Char → Bool
  | c :: d :: cs => p c d || hasPair p (d :: cs)
  | _ => false

/-- A text in single quotes, if these can hold it. -/
def singleQuoted (place : TextPlace) (text : String) : List Char :=
  let cs := text.toList
  let blankAtBreak := hasPair fun c d => isBlank c && d = '\n' || c = '\n' && isBlank d
  if place.isKey && cs.contains '\n' || blankAtBreak cs then doubleQuoted place text
  else
    let doubled := cs.flatMap fun c => if c = '\'' then ['\'', '\''] else [c]
    place.fold false ('\'' :: spreadBreaks place.indentation doubled ++ ['\''])

/-- A text in the quotes that it does not hold itself. -/
def quoted (place : TextPlace) (text : String) : List Char :=
  let cs := text.toList
  if cs.contains '"' && !cs.contains '\'' then singleQuoted place text
  else doubleQuoted place text

/-- Whether a text starts with a character that has a meaning of its own. -/
def startsSpecial : List Char → Bool
  | [] => false
  | [c] => isSpecial c || c = '?' || c = '-'
  | c :: d :: _ => isSpecial c || (c = '?' || c = '-') && isBlank d
where
  /-- A blank or an indicator. -/
  isSpecial (c : Char) : Bool := c ∈ "\n\t ,[]\x7b\x7d#&*!|>'\"%@\x60".toList

/-- Whether a text cannot be written plainly in any place. -/
def needsQuotes (cs : List Char) : Bool :=
  startsSpecial cs
    || hasPair (fun c d => (c = '\n' || c = ':') && isBlank d || isBlank c && d = '\n'
        || (c = '\n' || isBlank c) && d = '#') cs
    || cs.getLast?.any fun c => c = '\n' || isBlank c || c = ':' || c = '-'

/-- A plain text.  If `isText`, it must not be read back as anything else than text. -/
def plainOrQuoted (place : TextPlace) (isText : Bool) (text : String) : List Char :=
  let cs := text.toList
  let written := spreadBreaks place.indentation cs
  if place.isKey && cs.contains '\n' || cs.any isFlowIndicator || needsQuotes cs
      || isText && (place.schema.plain? true (String.ofList written)).isSome then quoted place text
  else place.fold false written

/-- A character that only double quotes can show. -/
def isControl (c : Char) : Bool :=
  c.toNat < 0x09 || 0x0B ≤ c.toNat && c.toNat < 0x20 || 0x7F ≤ c.toNat && c.toNat < 0xA0

/-- A text in a style. -/
def styled (place : TextPlace) (style : ScalarStyle) (isText : Bool) (text : String) : List Char :=
  if style = .doubleQuoted || text.toList.any isControl then doubleQuoted place text
  else match style with
    | .singleQuoted => singleQuoted place text
    | .plain => plainOrQuoted place isText text
    | _ => quoted place text

end LiteralLexer.Yaml
