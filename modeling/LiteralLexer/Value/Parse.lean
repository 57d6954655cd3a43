import LiteralLexer.Text.Digits
import LiteralLexer.Text.Utf8
import LiteralLexer.Value.Basic

/-!
# Reading JSON

`Value.ofJson?` reads the value that a text of JSON spells.  The text is cut into lexemes, character by
character: marks, quoted texts, and words, which are numbers or names of values.  The lexemes are then put
together with the collections that are still open, the innermost one first.
-/

namespace LiteralLexer.Json

/-! ## Lexemes -/

/-- A piece of JSON. -/
inductive Lexeme where
  | mark (c : Char)
  | text (s : String)
  | word (cs : List Char)
  deriving DecidableEq, Repr

/-- A blank between lexemes. -/
def isBlank (c : Char) : Bool := c ∈ [' ', '\t', '\n', '\r']

/-- One of the characters that structure a collection. -/
def isMark (c : Char) : Bool := c ∈ ['\x7b', '\x7d', '[', ']', ':', ',']

/-- The code point that a letter behind a backslash stands for. -/
def escape? (c : Char) : Option Nat :=
  match c with
  | '"' | '\\' | '/' => some c.toNat
  | 'b' => some 0x08
  | 'f' => some 0x0C
  | 'n' => some 0x0A
  | 'r' => some 0x0D
  | 't' => some 0x09
  | _ => none

/-- Whether a code point is the first half of a pair of surrogates. -/
def isHigh (n : Nat) : Bool := 0xD800 ≤ n && n ≤ 0xDBFF

/-- Whether a code point is the second half of a pair of surrogates. -/
def isLow (n : Nat) : Bool := 0xDC00 ≤ n && n ≤ 0xDFFF

/-- The characters of code points.  Surrogates stand for one character in pairs, and a single one cannot be
read. -/
def characters : List Nat → List Char
  | [] => []
  | [n] => [if isHigh n || isLow n then Text.replacement else Char.ofNat n]
  | m :: n :: ns =>
    if isHigh m && isLow n then
      Char.ofNat (0x10000 + (m - 0xD800) * 0x400 + (n - 0xDC00)) :: characters ns
    else
      (if isHigh m || isLow m then Text.replacement else Char.ofNat m) :: characters (n :: ns)

/-- What has been read of a lexeme, the latest part first. -/
inductive Begun where
  | nothing
  | word (cs : List Char)
  | text (points : List Nat)
  /-- A text with a backslash behind it. -/
  | escape (points : List Nat)
  /-- A text behind which hexadecimal digits are still missing. -/
  | hexadecimal (points : List Nat) (missing : Nat) (value : Nat)
  deriving Repr

/-- A text that has been read up to some place: its lexemes, the latest one first. -/
structure Scanner where
  lexemes : List Lexeme := []
  begun : Begun := .nothing
  deriving Repr

namespace Scanner

/-- Begins a lexeme with a character. -/
def start (lexemes : List Lexeme) (c : Char) : Scanner :=
  if isBlank c then { lexemes }
  else if isMark c then { lexemes := .mark c :: lexemes }
  else if c = '"' then { lexemes, begun := .text [] }
  else { lexemes, begun := .word [c] }

/-- Reads a character. -/
def read (s : Scanner) (c : Char) : Option Scanner :=
  match s.begun with
  | .nothing => some (start s.lexemes c)
  | .word cs =>
    if isBlank c || isMark c || c = '"' then some (start (.word cs.reverse :: s.lexemes) c)
    else some { s with begun := .word (c :: cs) }
  | .text points =>
    if c = '"' then some { lexemes := .text (String.ofList (characters points.reverse)) :: s.lexemes }
    else if c = '\\' then some { s with begun := .escape points }
    else if c.toNat < 0x20 then none
    else some { s with begun := .text (c.toNat :: points) }
  | .escape points =>
    if c = 'u' then some { s with begun := .hexadecimal points 4 0 }
    else (escape? c).map fun n => { s with begun := .text (n :: points) }
  | .hexadecimal points missing value =>
    (Text.hexValue? c).map fun digit =>
      let value := value * 16 + digit
      if missing = 1 then { s with begun := .text (value :: points) }
      else { s with begun := .hexadecimal points (missing - 1) value }

/-- The lexemes of a text that ends here. -/
def finish? (s : Scanner) : Option (List Lexeme) :=
  match s.begun with
  | .nothing => some s.lexemes.reverse
  | .word cs => some (.word cs.reverse :: s.lexemes).reverse
  | _ => none

end Scanner

/-- The lexemes of a text. -/
def lexemes? (text : String) : Option (List Lexeme) :=
  (text.toList.foldlM Scanner.read {}).bind Scanner.finish?

/-! ## Values -/

/-- A number: no zero leads other digits, and a digit stands on either side of a point. -/
def number? (cs : List Char) : Option Binary64 :=
  let negative : Bool := cs.head? = some '-'
  let unsigned := if negative then cs.tail else cs
  let whole := unsigned.takeWhile Char.isDigit
  let behind := unsigned.dropWhile Char.isDigit
  if whole = [] || (whole.head? = some '0' && whole ≠ ['0']) then none
  else if behind.head? = some '.' && !behind.tail.head?.any Char.isDigit then none
  else (Binary64.decimal? unsigned).map fun (digits, exponent) => .ofDecimal negative digits exponent

/-- The value of a word. -/
def wordValue? (cs : List Char) : Option Value :=
  if cs = "null".toList then some .null
  else if cs = "true".toList then some (.bool true)
  else if cs = "false".toList then some (.bool false)
  else (number? cs).map .number

/-- Sets the value of a key.  A key that is there already keeps its place. -/
def setEntry (key : String) (value : Value) (entries : List (String × Value)) :
    List (String × Value) :=
  if entries.any (·.1 = key) then
    entries.map fun entry => if entry.1 = key then (key, value) else entry
  else entries ++ [(key, value)]

/-- A collection that is still open. -/
inductive Frame where
  /-- A list, the latest item first. -/
  | list (items : List Value)
  /-- A mapping, and the key whose value is being read. -/
  | mapping (entries : List (String × Value)) (key : String)
  deriving Repr

/-- What has to follow, inside the collections that are open.  A collection can be closed at once where it
was just opened. -/
inductive Awaited where
  | value (frames : List Frame) (opened : Bool)
  | key (frames : List Frame) (entries : List (String × Value)) (opened : Bool)
  | colon (frames : List Frame) (entries : List (String × Value)) (key : String)
  /-- A value was read: its collection goes on or ends. -/
  | further (frames : List Frame) (value : Value)
  deriving Repr

/-- Puts in a lexeme. -/
def Awaited.read : Awaited → Lexeme → Option Awaited
  | .value frames _, .text s => some (.further frames (.text s))
  | .value frames _, .word cs => (wordValue? cs).map (.further frames)
  | .value frames _, .mark '[' => some (.value (.list [] :: frames) true)
  | .value frames _, .mark '\x7b' => some (.key frames [] true)
  | .value (.list _ :: frames) true, .mark ']' => some (.further frames (.list []))
  | .key frames entries _, .text name => some (.colon frames entries name)
  | .key frames _ true, .mark '\x7d' => some (.further frames (.mapping []))
  | .colon frames entries name, .mark ':' => some (.value (.mapping entries name :: frames) false)
  | .further (.list items :: frames) item, .mark ',' =>
    some (.value (.list (item :: items) :: frames) false)
  | .further (.list items :: frames) item, .mark ']' =>
    some (.further frames (.list (item :: items).reverse))
  | .further (.mapping entries name :: frames) item, .mark ',' =>
    some (.key frames (setEntry name item entries) false)
  | .further (.mapping entries name :: frames) item, .mark '\x7d' =>
    some (.further frames (.mapping (setEntry name item entries)))
  | _, _ => none

/-- The value, if nothing has to follow. -/
def Awaited.finish? : Awaited → Option Value
  | .further [] whole => some whole
  | _ => none

end LiteralLexer.Json

namespace LiteralLexer

/-- The value that a text of JSON spells. -/
def Value.ofJson? (text : String) : Option Value := do
  let awaited ← (← Json.lexemes? text).foldlM Json.Awaited.read (.value [] false)
  awaited.finish?

end LiteralLexer
