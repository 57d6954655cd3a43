import LiteralLexer.Yaml.Scalar.Word

/-!
# Block scalars

A block scalar starts with a header, `|` for literal or `>` for folded text, and goes on in the
lines below.  The header may say how far these are indented and what becomes of the line breaks at
the end.
-/

namespace LiteralLexer.Yaml

/-- What becomes of the line breaks at the end of a block scalar. -/
inductive Chomp where
  | strip
  | clip
  | keep
  deriving DecidableEq, Repr

/-- The header of a block scalar. -/
structure BlockHeader where
  isFolded : Bool
  chomp : Option Chomp := none
  indent : Option Nat := none
  comment : List Char := []
  deriving Repr

namespace BlockHeader

/-- Reads the characters of a header, each of which may come once. -/
def read (h : BlockHeader) : List Char → Except Malformed BlockHeader
  | [] => .ok h
  | c :: cs =>
    if h.chomp.isNone && c = '-' then { h with chomp := some .strip }.read cs
    else if h.chomp.isNone && c = '+' then { h with chomp := some .keep }.read cs
    else if h.indent.isNone && c.isDigit && c ≠ '0' then
      { h with indent := some (c.toNat - '0'.toNat) }.read cs
    else .error .badBlockHeader

/-- Reads what follows a header in its line: blanks, and a comment behind a blank. -/
def readEnding (spaced : Bool) (h : BlockHeader) : List Lexeme → Except Malformed BlockHeader
  | [] => .ok h
  | l :: ls =>
    match l.kind with
    | .space => h.readEnding true ls
    | .newline => h.readEnding spaced ls
    | .comment =>
      if spaced then { h with comment := l.text.drop 1 }.readEnding spaced ls
      else .error .missingBlank
    | _ => .error .badBlockHeader

/-- The header that lexemes spell. -/
def ofLexemes : List Lexeme → Except Malformed BlockHeader
  | [] => .error .badBlockHeader
  | l :: ls => do
    let h ← { isFolded := l.text.head? = some '>' : BlockHeader }.read (l.text.drop 1)
    h.readEnding false ls

end BlockHeader

/-- A line of a block scalar: the blanks it starts with, and the rest. -/
structure BlockLine where
  indent : Nat
  content : List Char
  deriving Repr

namespace BlockLine

/-- Splits the blanks off a line. -/
def ofChars (line : List Char) : BlockLine :=
  { indent := (line.takeWhile (· = ' ')).length, content := line.dropWhile (· = ' ') }

/-- Nothing but blanks. -/
def isEmpty (l : BlockLine) : Bool := l.content.isEmpty || l.content = ['\r']

/-- The blanks beyond the indentation. -/
def extra (trim : Nat) (l : BlockLine) : List Char := List.replicate (l.indent - trim) ' '

/-- The content without a carriage return at its end. -/
def words (l : BlockLine) : List Char := dropReturn l.content

/-- The lines as they stand. -/
def literal (trim : Nat) : List BlockLine → List Char
  | [] => []
  | [l] => l.extra trim ++ l.words
  | l :: ls => l.extra trim ++ l.words ++ '\n' :: literal trim ls

/-- The lines with single line breaks folded into blanks, except around lines that are indented
further.  `separator` is what stands before the next line, `further` says that the last line was
indented further. -/
def folded (trim : Nat) (separator : List Char) (further : Bool) : List BlockLine → List Char
  | [] => []
  | l :: ls =>
    if trim < l.indent || l.words.head? = some '\t' then
      let separator :=
        if separator = [' '] then ['\n']
        else if !further && separator = ['\n'] then ['\n', '\n']
        else separator
      separator ++ l.extra trim ++ l.words ++ folded trim ['\n'] true ls
    else if l.words.isEmpty then
      if separator = ['\n'] then '\n' :: folded trim separator further ls
      else folded trim ['\n'] further ls
    else separator ++ l.words ++ folded trim [' '] false ls

/-- The line breaks at the end of the text, given the empty lines behind it. -/
def ending (chomp : Chomp) (trim : Nat) (text : List Char) (trailing : List BlockLine) :
    List Char :=
  match chomp with
  | .strip => []
  | .clip => ['\n']
  | .keep =>
    let kept := trailing.flatMap fun l => '\n' :: l.extra trim
    if (text ++ kept).getLast? = some '\n' then kept else kept ++ ['\n']

end BlockLine

/-- The indentation that is taken off all lines, given those before the first content and that
one.  Empty lines must not be indented further than the content unless the header says how far
that is. -/
def blockTrim (header : BlockHeader) (indent : Nat) (leading : List BlockLine)
    (first : BlockLine) : Except Malformed Nat :=
  match header.indent with
  | some n => if first.indent < indent + n then .error .badIndentation else .ok (indent + n)
  | none =>
    let widest := leading.foldl (fun widest l => max widest l.indent) indent
    if first.indent < widest then .error .badIndentation else .ok first.indent

/-- The text of a block scalar that belongs to what is indented by `indent`.  Only the outermost
node of a document need not be indented. -/
def blockText (header : BlockHeader) (indent : Nat) (atRoot : Bool) (body : List Char) :
    Except Malformed (List Char) :=
  let lines := if body.isEmpty then [] else (splitLines body).map BlockLine.ofChars
  let chomp := header.chomp.getD .clip
  let trailing := (lines.reverse.takeWhile BlockLine.isEmpty).reverse
  let body := lines.take (lines.length - trailing.length)
  let leading := body.takeWhile BlockLine.isEmpty
  match body.drop leading.length with
  | [] =>
    .ok (if chomp = .keep && !lines.isEmpty then List.replicate (max 1 (lines.length - 1)) '\n'
      else [])
  | first :: more => do
    let trim ← blockTrim header indent leading first
    if trim = 0 && !atRoot then throw .badIndentation
    if more.any fun l => !l.words.isEmpty && l.indent < trim then throw .badIndentation
    let further := (trailing.reverse.dropWhile (·.indent ≤ trim)).reverse
    let content := first :: more ++ further
    let before := leading.flatMap fun l => l.extra trim ++ ['\n']
    let text :=
      if header.isFolded then BlockLine.folded trim [] false content
      else BlockLine.literal trim content
    return before ++ text
      ++ BlockLine.ending chomp trim (before ++ text) (trailing.drop further.length)

end LiteralLexer.Yaml
