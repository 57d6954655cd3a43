import LiteralLexer.Text.Utf8
import LiteralLexer.Yaml.Lexeme.Basic
import LiteralLexer.Yaml.Schema.Basic

/-!
# Tags

A tag is written with a handle that stands for the beginning of its full name, or in full between
angle brackets.  `TagHandles.fullName` reads a tag, `TagHandles.short` writes one.
-/

namespace LiteralLexer.Yaml

/-- What the handles of a document stand for, in the order in which they were declared. -/
abbrev TagHandles := List (String × String)

namespace TagHandles

/-- The handles that every document has. -/
def standard : TagHandles := [("!!", standardTag "")]

/-- Declares a handle.  One that is there already keeps its place. -/
def declare (handle meaning : String) : TagHandles → TagHandles
  | [] => [(handle, meaning)]
  | (h, m) :: handles =>
    if h = handle then (h, meaning) :: handles else (h, m) :: declare handle meaning handles

/-- The octets of a text where a percent sign and two digits may stand for one. -/
def unescapeOctets : List Char → List UInt8
  | '%' :: a :: b :: cs =>
    match Text.hexValue? a, Text.hexValue? b with
    | some a, some b => .ofNat (16 * a + b) :: unescapeOctets cs
    | _, _ => '%'.toNat.toUInt8 :: unescapeOctets (a :: b :: cs)
  | c :: cs => c.toNat.toUInt8 :: unescapeOctets cs
  | [] => []

/-- The text that a part of a tag stands for, unless its octets are no text. -/
def unescape? (cs : List Char) : Option String :=
  let octets := unescapeOctets cs
  let text := Text.decodeUtf8 octets
  if text.toUTF8.toList = octets then some text else none

/-- The full name of a tag.  It is `!` where any meaning is allowed, and empty where there is no tag
after all. -/
def fullName (handles : TagHandles) (source : List Char) : Except Malformed String :=
  let bad : Except Malformed String := .error (.badTag (String.ofList source))
  match source with
  | ['!'] => .ok "!"
  | '!' :: '<' :: rest =>
    let name := String.ofList rest.dropLast
    if rest.getLast? ≠ some '>' || name = "!" || name = "!!" then bad else .ok name
  | _ =>
    let suffix := (source.reverse.takeWhile (· ≠ '!')).reverse
    let handle := String.ofList (source.take (source.length - suffix.length))
    if suffix.isEmpty then bad
    else match handles.lookup handle with
      | some meaning =>
        match unescape? suffix with
        | some text => .ok (meaning ++ text)
        | none => bad
      | none => if handle = "!" then .ok (String.ofList source) else bad

/-- A character of a tag behind its handle. -/
def escapeChar (c : Char) : List Char :=
  match c with
  | '!' => "%21".toList
  | ',' => "%2C".toList
  | '[' => "%5B".toList
  | ']' => "%5D".toList
  | '\x7b' => "%7B".toList
  | '\x7d' => "%7D".toList
  | c => [c]

/-- How a tag is written: with the first handle that fits, or in full. -/
def short (handles : TagHandles) (name : String) : List Char :=
  let cs := name.toList
  match handles.find? fun (_, meaning) => meaning.toList.isPrefixOf cs with
  | some (handle, meaning) =>
    handle.toList ++ (cs.drop meaning.toList.length).flatMap escapeChar
  | none => if cs.head? = some '!' then cs else "!<".toList ++ cs ++ ['>']

end TagHandles

end LiteralLexer.Yaml
