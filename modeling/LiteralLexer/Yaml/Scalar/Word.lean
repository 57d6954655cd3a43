import LiteralLexer.Yaml.Lexeme.Basic
import LiteralLexer.Yaml.Malformed

/-!
# Plain and quoted scalars

The text that a scalar in flow style stands for.  Line breaks are folded: a single one becomes a
blank, of several ones the first falls away, and the blanks around them do not count.
-/

namespace LiteralLexer.Yaml

/-- A line without the blanks at its end. -/
def trimRight (line : List Char) : List Char := (line.reverse.dropWhile isBlank).reverse

/-- Cuts a text into its lines. -/
def splitLines : List Char → List (List Char)
  | [] => [[]]
  | c :: cs =>
    if c = '\n' then [] :: splitLines cs
    else match splitLines cs with
      | [] => [[c]]
      | line :: lines => (c :: line) :: lines

/-- A line without a carriage return at its end. -/
def dropReturn (line : List Char) : List Char :=
  if line.getLast? = some '\r' then line.dropLast else line

/-- The lines after the first one, folded.  `broken` says that an empty line came before, and then
every further one stands for a line break. -/
def foldRest (broken : Bool) : List (List Char) → List Char
  | [] => []
  | [line] => (if broken then '\n' else ' ') :: line.dropWhile isBlank
  | line :: lines =>
    let content := trimRight ((dropReturn line).dropWhile isBlank)
    if content.isEmpty then
      if broken then '\n' :: foldRest true lines else foldRest true lines
    else (if broken then '\n' else ' ') :: content ++ foldRest false lines

/-- A text with its line breaks folded. -/
def foldBreaks (text : List Char) : List Char :=
  match splitLines text with
  | [] => []
  | [line] => line
  | line :: lines => trimRight (dropReturn line) ++ foldRest false lines

/-- The text of a plain scalar, which must not start with an indicator. -/
def plainText (source : List Char) : Except Malformed (List Char) :=
  match source with
  | c :: _ =>
    if c ∈ ['\t', ',', '%', '|', '>', '@', '\x60'] then .error (.badStart c)
    else .ok (foldBreaks source)
  | [] => .ok []

/-- A text with one quote for every two. -/
def undouble : List Char → List Char
  | '\'' :: '\'' :: cs => '\'' :: undouble cs
  | c :: cs => c :: undouble cs
  | [] => []

/-- What stands between the quotes of a scalar, if there are two of them. -/
def unquoted (quote : Char) (source : List Char) : Except Malformed (List Char) :=
  if 1 < source.length && source.getLast? = some quote then .ok (source.drop 1).dropLast
  else .error .unclosed

/-- The text of a scalar in single quotes. -/
def singleQuotedText (source : List Char) : Except Malformed (List Char) := do
  let raw ← unquoted '\'' source
  return undouble (foldBreaks raw)

/-! ## Double quotes -/

/-- The character that a letter stands for behind a backslash. -/
def escapeCode? (c : Char) : Option Char :=
  match c with
  | '0' => some '\x00'
  | 'a' => some '\x07'
  | 'b' => some '\x08'
  | 'e' => some '\x1b'
  | 'f' => some '\x0c'
  | 'n' => some '\n'
  | 'r' => some '\r'
  | 't' => some '\t'
  | 'v' => some '\x0b'
  | 'N' => some '\u0085'
  | '_' => some '\u00a0'
  | 'L' => some '\u2028'
  | 'P' => some '\u2029'
  | ' ' | '"' | '/' | '\\' | '\t' => some c
  | _ => none

/-- The number that the first `count` characters spell in hexadecimal, and what follows them. -/
def hexNumber? : Nat → Nat → List Char → Option (Nat × List Char)
  | 0, n, cs => some (n, cs)
  | _ + 1, _, [] => none
  | count + 1, n, c :: cs => (Text.hexValue? c).bind fun d => hexNumber? count (n * 16 + d) cs

/-- How many hexadecimal digits follow a letter behind a backslash. -/
def hexLength? : Char → Option Nat
  | 'x' => some 2
  | 'u' => some 4
  | 'U' => some 8
  | _ => none

/-- The second half of a surrogate pair, written as an escape of its own. -/
def lowSurrogate? : List Char → Option (Nat × List Char)
  | '\\' :: c :: cs =>
    ((hexLength? c).bind (hexNumber? · 0 cs)).filter fun (n, _) => 0xDC00 ≤ n && n ≤ 0xDFFF
  | _ => none

/-- The character of an escape with hexadecimal digits, and what follows it.  Two halves of a
surrogate pair make one character. -/
def hexEscape? (length : Nat) (cs : List Char) : Option (Char × List Char) := do
  let (n, rest) ← hexNumber? length 0 cs
  if 0xD800 ≤ n && n ≤ 0xDBFF then
    let (low, rest) ← lowSurrogate? rest
    return (Char.ofNat (0x10000 + (n - 0xD800) * 0x400 + (low - 0xDC00)), rest)
  else if n.isValidChar then return (Char.ofNat n, rest)
  else none

/-- What a line break between double quotes stands for, given the characters behind it: the further
line breaks, or a blank. -/
def foldedBreak : List Char → List Char → List Char × List Char
  | breaks, [] => (if breaks.isEmpty then [' '] else breaks, [])
  | breaks, '\r' :: '\n' :: cs => foldedBreak ('\n' :: breaks) cs
  | breaks, c :: cs =>
    if c = '\n' then foldedBreak ('\n' :: breaks) cs
    else if isBlank c then foldedBreak breaks cs
    else (if breaks.isEmpty then [' '] else breaks, c :: cs)

/-- Whether a line break stands here. -/
def atBreak : List Char → Bool
  | '\n' :: _ | '\r' :: '\n' :: _ => true
  | _ => false

/-- The text between double quotes. -/
def unescape : Nat → List Char → Except Malformed (List Char)
  | 0, _ => .error .tooDeep
  | _ + 1, [] => .ok []
  | fuel + 1, '\r' :: '\n' :: cs => unescape fuel ('\n' :: cs)
  | fuel + 1, '\n' :: cs => do
    let (folded, rest) := foldedBreak [] cs
    return folded ++ (← unescape fuel rest)
  | fuel + 1, '\\' :: '\n' :: cs => unescape fuel (cs.dropWhile isBlank)
  | fuel + 1, '\\' :: '\r' :: '\n' :: cs => unescape fuel (cs.dropWhile isBlank)
  | fuel + 1, '\\' :: c :: cs =>
    match escapeCode? c, (hexLength? c).bind (hexEscape? · cs) with
    | some decoded, _ => do return decoded :: (← unescape fuel cs)
    | none, some (decoded, rest) => do return decoded :: (← unescape fuel rest)
    | none, none => .error .badEscape
  | _ + 1, ['\\'] => .error .badEscape
  | fuel + 1, c :: cs =>
    if isBlank c then do
      let blanks := (c :: cs).takeWhile isBlank
      let rest := (c :: cs).dropWhile isBlank
      let text ← unescape fuel rest
      return if atBreak rest then text else blanks ++ text
    else do return c :: (← unescape fuel cs)

/-- The text of a scalar in double quotes.  Where nothing but an escaped quote is left at the end of
the document, that quote closes the scalar and stands for itself, too. -/
def doubleQuotedText (source : List Char) : Except Malformed (List Char) := do
  let raw ← unquoted '"' source
  let raw := if endsInEscape raw then raw ++ ['"'] else raw
  unescape (2 * raw.length + 1) raw
where
  /-- Whether a text ends with a backslash that escapes what follows it. -/
  endsInEscape (raw : List Char) : Bool := (raw.reverse.takeWhile (· = '\\')).length % 2 = 1

end LiteralLexer.Yaml
