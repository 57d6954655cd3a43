import LiteralLexer.Binary64.Shortest
import LiteralLexer.Text.Utf8
import LiteralLexer.Value.Instant

/-!
# Values

A `Value` is a piece of plain data: what a configuration document holds and what the context of a
diagnostic carries.  `Value.display` is the text of a value inside a message.
-/

namespace LiteralLexer

/-- Plain data.  The entries of a mapping keep their order. -/
inductive Value where
  | null
  | bool (b : Bool)
  | number (x : Binary64)
  | text (s : String)
  | instant (t : Instant)
  | bytes (octets : List UInt8)
  /-- Something that cannot be shown. -/
  | hidden
  /-- A set, or a mapping that keeps its order.  Nobody can see what it holds. -/
  | box (isSet : Bool)
  | list (items : List Value)
  | mapping (entries : List (String × Value))
  deriving Repr, Inhabited

namespace Value

mutual

/-- The text of a value in a message.  A list shows its items between commas, a mapping hides
everything. -/
def display : Value → String
  | .null => "null"
  | .bool b => if b then "true" else "false"
  | .number x => x.text
  | .text s => s
  | .instant t => t.longText
  | .bytes octets => Text.decodeUtf8 octets
  | .hidden => ""
  | .box isSet => if isSet then "[object Set]" else "[object Map]"
  | .list items => String.intercalate "," (displayItems items)
  | .mapping _ => "[object Object]"

/-- The texts of the items of a list, where an absent one is empty. -/
def displayItems : List Value → List String
  | [] => []
  | .null :: items => "" :: displayItems items
  | item :: items => item.display :: displayItems items

end

end Value

end LiteralLexer
