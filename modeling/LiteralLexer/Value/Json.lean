import LiteralLexer.Text.Quoted
import LiteralLexer.Value.Basic

/-!
# Values as JSON

Two layouts of the same text: `Value.json` on one line without blanks, `Value.prettyJson` with one
entry a line, indented by two blanks a level.  A number that JSON cannot write becomes `null`, and so
does what cannot be shown in a list; in a mapping it is left out.
-/

namespace LiteralLexer.Value

/-- A number in JSON. -/
def jsonNumber (x : Binary64) : String := if x.isFinite then x.text else "null"

/-- Octets in JSON, as numbers. -/
def jsonOctets (octets : List UInt8) : List String := octets.map fun o => toString o.toNat

mutual

/-- A value as JSON on one line. -/
def json : Value → String
  | .null => "null"
  | .bool b => if b then "true" else "false"
  | .number x => jsonNumber x
  | .text s => Text.quote s
  | .instant t => Text.quote t.text
  | .bytes octets =>
    "\x7b\"type\":\"Buffer\",\"data\":[" ++ String.intercalate "," (jsonOctets octets) ++ "]\x7d"
  | .hidden => "undefined"
  | .box _ => "\x7b\x7d"
  | .list items => "[" ++ String.intercalate "," (jsonItems items) ++ "]"
  | .mapping entries => "\x7b" ++ String.intercalate "," (jsonEntries entries) ++ "\x7d"

def jsonItems : List Value → List String
  | [] => []
  | .hidden :: items => "null" :: jsonItems items
  | item :: items => item.json :: jsonItems items

def jsonEntries : List (String × Value) → List String
  | [] => []
  | (_, .hidden) :: entries => jsonEntries entries
  | (name, value) :: entries => (Text.quote name ++ ":" ++ value.json) :: jsonEntries entries

end

/-- A line break and the blanks of an indentation level. -/
def lineBreak (level : Nat) : String := "\n" ++ String.ofList (List.replicate (2 * level) ' ')

/-- The parts of a collection between its brackets, one a line; nothing stands between the brackets
of an empty one. -/
def enclose (level : Nat) (opening : String) (parts : List String) (closing : String) : String :=
  match parts with
  | [] => opening ++ closing
  | parts =>
    opening ++ lineBreak (level + 1) ++ String.intercalate ("," ++ lineBreak (level + 1)) parts
      ++ lineBreak level ++ closing

mutual

/-- A value as JSON over several lines, at a level of indentation. -/
def prettyAt (level : Nat) : Value → String
  | .null => "null"
  | .bool b => if b then "true" else "false"
  | .number x => jsonNumber x
  | .text s => Text.quote s
  | .instant t => Text.quote t.text
  | .bytes octets =>
    let data := enclose (level + 1) "[" (jsonOctets octets) "]"
    enclose level "\x7b" ["\"type\": \"Buffer\"", "\"data\": " ++ data] "\x7d"
  | .hidden => "undefined"
  | .box _ => "\x7b\x7d"
  | .list items => enclose level "[" (prettyItems (level + 1) items) "]"
  | .mapping entries => enclose level "\x7b" (prettyEntries (level + 1) entries) "\x7d"

def prettyItems (level : Nat) : List Value → List String
  | [] => []
  | .hidden :: items => "null" :: prettyItems level items
  | item :: items => item.prettyAt level :: prettyItems level items

def prettyEntries (level : Nat) : List (String × Value) → List String
  | [] => []
  | (_, .hidden) :: entries => prettyEntries level entries
  | (name, value) :: entries =>
    (Text.quote name ++ ": " ++ value.prettyAt level) :: prettyEntries level entries

end

/-- A value as JSON over several lines. -/
def prettyJson (v : Value) : String := v.prettyAt 0

end LiteralLexer.Value
