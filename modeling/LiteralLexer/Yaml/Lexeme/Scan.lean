import LiteralLexer.Yaml.Lexeme.Basic

/-!
# Cutting a document into pieces

A `Scanner` walks over the characters of a document and cuts off one piece after the other.  Which
piece comes next depends on where the scanner stands: between documents, inside the block layout of
a document, or inside a flow collection.  Scalars run over several lines as long as these are
indented far enough, so the scanner keeps track of the indentation that the innermost block
collection asks for.

No character is lost: the texts of the pieces in order are the document.
-/

namespace LiteralLexer.Yaml

/-! ## Searching -/

/-- The first place from `i` on whose character does not satisfy `p`. -/
def runEnd (p : Char → Bool) (cs : Array Char) (i : Nat) : Nat :=
  if h : i < cs.size then
    if p cs[i] then runEnd p cs (i + 1) else i
  else i
termination_by cs.size - i

/-- The first place from `i` on with the given character. -/
def find? (c : Char) (cs : Array Char) (i : Nat) : Option Nat :=
  let place := runEnd (· ≠ c) cs i
  if place < cs.size then some place else none

/-- Whether a document marker, `---` or `...`, stands at a place. -/
def markerAt? (cs : Array Char) (i : Nat) : Option Char :=
  match cs[i]? with
  | some c =>
    if (c = '-' || c = '.') && cs[i + 1]? = some c && cs[i + 2]? = some c && endsWord cs[i + 3]?
    then some c else none
  | none => none

/-- Where a scalar goes on in the line that starts at `i`, if the line belongs to it.  A line that
is not indented far enough does not, unless it is empty; where no indentation is asked for, only a
document marker ends the scalar. -/
def continuation? (indentation : Nat) (cs : Array Char) (i : Nat) : Option Nat :=
  if indentation = 0 then
    if (markerAt? cs i).isSome then none else some i
  else
    let content := runEnd (· = ' ') cs i
    if cs[content]? = some '\r' && cs[content + 1]? = some '\n' then some (content + 1)
    else if cs[content]? = some '\n' || indentation ≤ content - i then some content
    else none

/-! ## Scanners -/

/-- Where a scanner stands. -/
inductive ScanMode where
  | stream
  | document
  | flow
  deriving DecidableEq, Repr

/-- A walk over the characters of a document. -/
structure Scanner where
  chars : Array Char
  /-- How many characters are cut off already. -/
  pos : Nat := 0
  /-- How many flow collections are open. -/
  flowLevel : Nat := 0
  /-- What was just read may be a key although no blank follows its colon. -/
  flowKey : Bool := false
  /-- The indentation of the current line, block indicators included. -/
  indentation : Nat := 0
  /-- The indentation that further lines need. -/
  needed : Nat := 0
  /-- The indentation that the header of a block scalar asks for, less one. -/
  blockIndent : Option Nat := none
  /-- The header of a block scalar keeps the line breaks at its end. -/
  keepsBreaks : Bool := false
  /-- The pieces so far, the latest first. -/
  pieces : List Piece := []

namespace Scanner

/-- The character some places ahead. -/
def peek (s : Scanner) (count : Nat) : Option Char := s.chars[s.pos + count]?

/-- The characters up to a place. -/
def upTo (s : Scanner) (place : Nat) : List Char := (s.chars.extract s.pos place).toList

/-- Cuts off a piece of a given kind that ends at a place. -/
def cutAs (kind : LexemeKind) (s : Scanner) (place : Nat) : Scanner :=
  { s with pieces := ⟨kind, s.upTo place⟩ :: s.pieces, pos := max s.pos (min place s.chars.size) }

/-- Cuts off a piece that ends at a place, if there is anything to cut off. -/
def cutTo (s : Scanner) (place : Nat) : Scanner :=
  if s.pos < place then s.cutAs (.ofText (s.upTo place)) place else s

/-- Cuts off a piece of the given number of characters. -/
def cut (s : Scanner) (count : Nat) : Scanner := s.cutTo (s.pos + count)

/-- Cuts off the characters that satisfy a predicate. -/
def cutWhile (p : Char → Bool) (s : Scanner) : Scanner := s.cutTo (runEnd p s.chars s.pos)

/-- Cuts off blanks. -/
def cutBlanks (s : Scanner) : Scanner := s.cutWhile isBlank

/-- Cuts off the blanks of an indentation, which has no tabulators. -/
def cutIndentation (s : Scanner) : Scanner := s.cutWhile (· = ' ')

/-- Cuts off a line break. -/
def cutBreak (s : Scanner) : Scanner :=
  match s.peek 0, s.peek 1 with
  | some '\n', _ => s.cut 1
  | some '\r', some '\n' => s.cut 2
  | _, _ => s

/-- Inserts a piece without text. -/
def mark (kind : LexemeKind) (s : Scanner) : Scanner :=
  { s with pieces := ⟨kind, []⟩ :: s.pieces }

/-- Where the current line ends. -/
def lineEnd (s : Scanner) : Nat :=
  match find? '\n' s.chars s.pos with
  | some place => if s.pos < place && s.chars[place - 1]? = some '\r' then place - 1 else place
  | none => s.chars.size

/-- Whether nothing but a comment is left of the line. -/
def atLineEnd (s : Scanner) : Bool :=
  let place := runEnd isBlank s.chars s.pos
  match s.chars[place]? with
  | none | some '#' | some '\n' => true
  | some '\r' => s.chars[place + 1]? = some '\n'
  | some _ => false

/-- Whether the scanner is inside a flow collection. -/
def inFlow (s : Scanner) : Bool := 0 < s.flowLevel

/-- Whether an indicator may stand before this character. -/
def endsIndicator (s : Scanner) (c : Option Char) : Bool :=
  endsWord c || s.inFlow && c.any isFlowIndicator

/-! ## Scalars -/

/-- Where a plain scalar ends.  `i` is the place to look at, `stop` the place behind the last
character that belongs to the scalar for certain. -/
def plainEnd (s : Scanner) : Nat → Nat → Nat → Nat
  | 0, _, stop => stop
  | fuel + 1, i, stop =>
    match s.chars[i]? with
    | none => stop
    | some c =>
      if c = ':' then
        if s.endsIndicator s.chars[i + 1]? then stop else s.plainEnd fuel (i + 1) (i + 1)
      else if isSeparator c then
        let crlf := c = '\r' && s.chars[i + 1]? = some '\n'
        let stop := if c = '\r' && !crlf then i + 1 else stop
        let last := if crlf then i + 1 else i
        let next := s.chars[last + 1]?
        if next = some '#' || s.inFlow && next.any isFlowIndicator then stop
        else if c = '\n' || crlf then
          match continuation? s.needed s.chars (last + 1) with
          | none => stop
          | some place => s.plainEnd fuel (max last (place - 2) + 1) stop
        else s.plainEnd fuel (i + 1) stop
      else if s.inFlow && isFlowIndicator c then stop
      else s.plainEnd fuel (i + 1) (i + 1)

/-- Where to go on after a scalar. -/
def afterScalar (s : Scanner) : ScanMode := if s.inFlow then .flow else .document

/-- Cuts off a plain scalar. -/
def cutPlain (s : Scanner) : Scanner × ScanMode :=
  let s' := s.cutAs .scalar (s.plainEnd (s.chars.size + 1) s.pos s.pos)
  (s', s.afterScalar)

/-- The quote that closes a text in single quotes, where a quote is written twice. -/
def closingSingle? (cs : Array Char) : Nat → Nat → Option Nat
  | 0, _ => none
  | fuel + 1, i =>
    match find? '\'' cs i with
    | none => none
    | some place =>
      if cs[place + 1]? = some '\'' then closingSingle? cs fuel (place + 2) else some place

/-- The quote that closes a text in double quotes, where a backslash escapes. -/
def closingDouble? (cs : Array Char) : Nat → Nat → Option Nat
  | 0, _ => none
  | fuel + 1, i =>
    match cs[i]? with
    | none => none
    | some '"' => some i
    | some '\\' => closingDouble? cs fuel (i + 2)
    | some _ => closingDouble? cs fuel (i + 1)

/-- The first line break of a quoted text, from `i` up to its closing quote, behind which the text
is not indented far enough. -/
def unindentedBreak? (s : Scanner) (closing : Nat) : Nat → Nat → Option Nat
  | 0, _ => none
  | fuel + 1, i =>
    match find? '\n' s.chars i with
    | none => none
    | some place =>
      if closing ≤ place then none
      else match continuation? s.needed s.chars (place + 1) with
        | none => some place
        | some next => s.unindentedBreak? closing fuel next

/-- Cuts off a quoted scalar.  Where it is not indented far enough it ends with the line, and
without a closing quote it ends with the document. -/
def cutQuoted (s : Scanner) : Scanner × ScanMode :=
  let fuel := s.chars.size + 1
  let closing := match s.peek 0 with
    | some '\'' => closingSingle? s.chars fuel (s.pos + 1)
    | _ => closingDouble? s.chars fuel (s.pos + 1)
  let stop := match closing with
    | none => s.chars.size
    | some closing =>
      match s.unindentedBreak? closing fuel s.pos with
      | some place => if s.chars[place - 1]? = some '\r' then place - 1 else place
      | none => closing + 1
  (s.cutTo stop, s.afterScalar)

/-- Reads what the header of a block scalar asks for, and cuts the header off. -/
def cutBlockHeader (s : Scanner) : Scanner :=
  let marks := runEnd (fun c => c = '+' || c = '-' || c.isDigit && c ≠ '0') s.chars (s.pos + 1)
  let header := s.upTo marks
  let digit := (header.filter Char.isDigit).getLast?
  let s := { s with
    blockIndent := digit.map fun (c : Char) => c.toNat - '0'.toNat - 1
    keepsBreaks := header.contains '+' }
  s.cutWhile fun c => !isSeparator c && c ≠ '#'

/-- The start of the line of a block scalar with the first content, and the blanks before it. -/
def firstContent (cs : Array Char) : Nat → Nat → Nat → Nat → Nat × Nat
  | 0, line, blanks, _ => (line, blanks)
  | fuel + 1, line, blanks, i =>
    match cs[i]? with
    | some ' ' => firstContent cs fuel line (blanks + 1) (i + 1)
    | some '\n' => firstContent cs fuel (i + 1) 0 (i + 1)
    | some '\r' =>
      if cs[i + 1]? = some '\n' then firstContent cs fuel line blanks (i + 1) else (line, blanks)
    | _ => (line, blanks)

/-- The start of the first line, from `line` on, that does not belong to a block scalar; the place
behind the document counts as the start of another line. -/
def blockEnd (s : Scanner) : Nat → Nat → Nat
  | 0, line => line
  | fuel + 1, line =>
    match continuation? s.needed s.chars line with
    | none => line
    | some place =>
      match find? '\n' s.chars place with
      | some newline => s.blockEnd fuel (newline + 1)
      | none => s.chars.size + 1

/-- How many blanks stand right before a place. -/
def blanksBefore (cs : Array Char) : Nat → Nat
  | 0 => 0
  | i + 1 => if cs[i]? = some ' ' then blanksBefore cs i + 1 else 0

/-- Takes the empty lines off the end of a block scalar, which have at most `blanks` blanks. -/
def withoutEmptyLines (s : Scanner) (blanks : Nat) : Nat → Nat → Nat
  | 0, line => line
  | fuel + 1, line =>
    let beforeBreak := line - 1
    let content :=
      if 0 < beforeBreak && s.chars[beforeBreak - 1]? = some '\r' then beforeBreak - 1
      else beforeBreak
    let start := content - blanksBefore s.chars content
    if s.pos < start && s.chars[start - 1]? = some '\n' && content ≤ start + blanks then
      s.withoutEmptyLines blanks fuel start
    else line

/-- Cuts off the lines of a block scalar.  A line that is indented with a tabulator is taken in, so
that it is found to be malformed. -/
def cutBlock (s : Scanner) : Scanner :=
  let fuel := s.chars.size + 2
  let (line, blanks) := firstContent s.chars fuel s.pos 0 s.pos
  let (s, line) :=
    if s.needed ≤ blanks then
      let needed := match s.blockIndent with
        | none => blanks
        | some extra => extra + max 1 s.needed
      let s := { s with needed }
      (s, s.blockEnd fuel line)
    else (s, line)
  let content := runEnd (· = ' ') s.chars line
  let stop :=
    if s.chars[content]? = some '\t' then runEnd isSeparator s.chars content
    else if s.keepsBreaks then line
    else s.withoutEmptyLines blanks fuel line
  s.cutAs .scalar stop

/-! ## Indicators -/

/-- Where a tag ends. -/
def tagEnd (cs : Array Char) : Nat → Nat → Nat
  | 0, i => i
  | fuel + 1, i =>
    match cs[i]? with
    | none => i
    | some c =>
      if isTagChar c then tagEnd cs fuel (i + 1)
      else if c = '%' && (cs[i + 1]?.bind Text.hexValue?).isSome && (cs[i + 2]?.bind Text.hexValue?).isSome
      then tagEnd cs fuel (i + 3)
      else i

/-- Cuts off a tag. -/
def cutTag (s : Scanner) : Scanner :=
  if s.peek 1 = some '<' then
    let place := runEnd (fun c => !isSeparator c && c ≠ '>') s.chars (s.pos + 2)
    s.cutTo (if s.chars[place]? = some '>' then place + 1 else place)
  else s.cutTo (tagEnd s.chars (s.chars.size + 1) (s.pos + 1))

/-- Cuts off properties and block indicators with the blanks behind them. -/
def cutIndicators : Nat → Scanner → Scanner
  | 0, s => s
  | fuel + 1, s =>
    match s.peek 0 with
    | some '!' => cutIndicators fuel s.cutTag.cutBlanks
    | some '&' => cutIndicators fuel (s.cutWhile isNameChar).cutBlanks
    | some c =>
      if (c = '-' || c = '?' || c = ':') && s.endsIndicator (s.peek 1) then
        let s :=
          if s.inFlow then { s with flowKey := false } else { s with needed := s.indentation + 1 }
        cutIndicators fuel (s.cut 1).cutBlanks
      else s
    | none => s

/-- Cuts off the block indicators at the start of a line. -/
def cutBlockIndicators : Nat → Scanner → Scanner
  | 0, s => s
  | fuel + 1, s =>
    match s.peek 0 with
    | some c =>
      if (c = '-' || c = '?' || c = ':') && endsWord (s.peek 1) then
        let s' := (s.cut 1).cutBlanks
        cutBlockIndicators fuel { s' with
          needed := s.indentation + 1
          indentation := s.indentation + (s'.pos - s.pos) }
      else s
    | none => s

/-! ## Steps -/

/-- The start of a line: a document marker, or an indentation and block indicators. -/
def startLine (s : Scanner) : Scanner × ScanMode :=
  match markerAt? s.chars s.pos with
  | some c =>
    ({ s.cut 3 with indentation := 0, needed := 0 }, if c = '-' then .document else .stream)
  | none =>
    let s' := s.cutIndentation
    let indentation := s'.pos - s.pos
    let needed :=
      if indentation < s.needed && !endsWord (s'.peek 1) then indentation else s.needed
    (cutBlockIndicators (s.chars.size + 1) { s' with indentation, needed }, .document)

/-- Where the text of a directive ends that starts here: before a comment and the blanks before
it. -/
def directiveEnd (s : Scanner) : Nat :=
  let chars := s.upTo s.lineEnd
  let commented (i : Nat) : Bool := chars[i]?.any isBlank && chars[i + 1]? = some '#'
  let length := ((List.range chars.length).find? commented).getD chars.length
  s.pos + ((chars.take length).reverse.dropWhile isBlank).length

/-- Between documents: directives, comments and empty lines. -/
def streamStep (s : Scanner) : Scanner × ScanMode :=
  let s := if s.peek 0 = some '\ufeff' then s.cut 1 else s
  if s.peek 0 = some '%' then
    let directive := (s.cutTo s.directiveEnd).cutBlanks
    ((directive.cutTo directive.lineEnd).cutBreak, .stream)
  else if s.atLineEnd then
    let blanks := s.cutBlanks
    ((blanks.cutTo blanks.lineEnd).cutBreak, .stream)
  else (s.mark .implicitDocument).startLine

/-- Inside the block layout of a document. -/
def documentStep (s : Scanner) : Scanner × ScanMode :=
  let s := s.cutBlanks
  let stop := s.lineEnd
  let s := cutIndicators (s.chars.size + 1) s
  if stop ≤ s.pos then s.cutBreak.startLine
  else match s.peek 0 with
    | none => s.startLine
    | some c =>
      if c = '#' then (s.cutTo stop).cutBreak.startLine
      else if c = '\x7b' || c = '[' then
        ({ s.cut 1 with flowKey := false, flowLevel := 1 }, .flow)
      else if c = '\x7d' || c = ']' then (s.cut 1, .document)
      else if c = '*' then (s.cutWhile isNameChar, .document)
      else if c = '"' || c = '\'' then s.cutQuoted
      else if c = '|' || c = '>' then
        (s.cutBlockHeader.cutBlanks.cutTo stop).cutBreak.cutBlock.startLine
      else s.cutPlain

/-- Cuts off line breaks and blanks inside a flow collection.  The second part is the indentation
of the line, if another one was started. -/
def cutFlowGap : Nat → Scanner → Option Nat → Scanner × Option Nat
  | 0, s, indent => (s, indent)
  | fuel + 1, s, indent =>
    let broken := s.cutBreak
    let (s', indent) :=
      if s.pos < broken.pos then
        let indented := broken.cutIndentation
        let count := indented.pos - broken.pos
        ({ indented with indentation := count }, some count)
      else (broken, indent)
    let s' := s'.cutBlanks
    if s.pos < s'.pos then cutFlowGap fuel s' indent else (s', indent)

/-- Whether a flow collection cannot go on in a line of this indentation.  Its last bracket may
stand one column further to the left. -/
def flowEnds (s : Scanner) (indent : Nat) : Bool :=
  let unindented := indent < s.needed && s.peek 0 ≠ some '#'
  let marked := indent = 0 && (markerAt? s.chars s.pos).isSome
  let lastBracket :=
    indent + 1 = s.needed && s.flowLevel = 1 && (s.peek 0 = some ']' || s.peek 0 = some '\x7d')
  (unindented || marked) && !lastBracket

/-- Cuts off commas with the blanks behind them. -/
def cutCommas : Nat → Scanner → Scanner
  | 0, s => s
  | fuel + 1, s =>
    if s.peek 0 = some ',' then cutCommas fuel { (s.cut 1).cutBlanks with flowKey := false } else s

/-- Inside a flow collection. -/
def flowStep (s : Scanner) : Scanner × ScanMode :=
  let fuel := s.chars.size + 1
  let (s, indent) := cutFlowGap fuel s none
  if indent.any s.flowEnds then ({ s with flowLevel := 0 }.mark .flowBroken).startLine
  else
    let stop := s.lineEnd
    let s := cutIndicators fuel (cutCommas fuel s)
    if stop ≤ s.pos then (s, .flow)
    else match s.peek 0 with
      | none => (s, .flow)
      | some c =>
        if c = '#' then (s.cutTo stop, .flow)
        else if c = '\x7b' || c = '[' then
          ({ s.cut 1 with flowKey := false, flowLevel := s.flowLevel + 1 }, .flow)
        else if c = '\x7d' || c = ']' then
          ({ s.cut 1 with flowKey := true, flowLevel := s.flowLevel - 1 },
            if s.flowLevel = 1 then .document else .flow)
        else if c = '*' then (s.cutWhile isNameChar, .flow)
        else if c = '"' || c = '\'' then { s with flowKey := true }.cutQuoted
        else if c = ':' && (s.flowKey || endsWord (s.peek 1) || s.peek 1 = some ',') then
          ({ (s.cut 1).cutBlanks with flowKey := false }, .flow)
        else { s with flowKey := false }.cutPlain

/-- Scans on as long as there are characters. -/
def scanFrom : Nat → ScanMode → Scanner → Scanner
  | 0, _, s => s
  | fuel + 1, mode, s =>
    if s.chars.size ≤ s.pos then s
    else
      let (s, mode) := match mode with
        | .stream => s.streamStep
        | .document => s.documentStep
        | .flow => s.flowStep
      scanFrom fuel mode s

end Scanner

/-- The pieces of a document. -/
def pieces (text : List Char) : List Piece :=
  let chars := text.toArray
  (Scanner.scanFrom (4 * chars.size + 16) .stream { chars }).pieces.reverse

end LiteralLexer.Yaml
