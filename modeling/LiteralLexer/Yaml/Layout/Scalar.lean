import LiteralLexer.Text.White
import LiteralLexer.Yaml.Layout.Number
import LiteralLexer.Yaml.Layout.Text

/-!
# Scalars as they are written

The tag of a scalar decides how it is written, also if the scalar does not fit the tag; without a
tag the atom decides.  A null or a boolean keeps the word it was read from.
-/

namespace LiteralLexer.Yaml

/-- The number that a text is taken for where a number has to be written: blanks around it do not
count, and it may be in any base. -/
def looseNumber (text : String) : Binary64 :=
  let cs := Text.trim text.toList
  let inBase (base : Nat) (ds : List Char) : Binary64 :=
    ((Text.digits? base ds).map fun n => Binary64.ofDecimal false n 0).getD .nan
  let decimal : Binary64 :=
    match (Core.integer? (String.ofList cs)).or (Core.decimal? (String.ofList cs)) with
    | some (.number x _) => x
    | _ => .nan
  match cs with
  | [] => .zero false
  | '0' :: c :: ds =>
    match c.toLower with
    | 'x' => inBase 16 ds
    | 'o' => inBase 8 ds
    | 'b' => inBase 2 ds
    | _ => decimal
  | cs =>
    let (negative, ds) := Text.splitSign cs
    if ds = "Infinity".toList then .infinite negative else decimal

/-- A text in the place of a number. -/
def misfitNumber (text : String) : List Char :=
  match looseNumber text with
  | .finite .. => (Text.quote text).toList
  | x => decimalText 0 x

/-- The null that was read from a word. -/
def nullText (source : String) : List Char :=
  if (null? source).isSome then source.toList else "null".toList

/-- The boolean that was read from a word. -/
def Schema.boolText (schema : Schema) (b : Bool) (source : String) : List Char :=
  match schema.boolean? source with
  | some (.bool c) => if b = c then source.toList else (if b then "true" else "false").toList
  | _ => (if b then "true" else "false").toList

/-- An instant, without the parts at its end that are zero. -/
def instantText (t : Instant) : List Char :=
  let cs := t.text.toList
  if ".000Z".toList.isSuffixOf cs then
    let cs := cs.take (cs.length - 5)
    if "T00:00:00".toList.isSuffixOf cs then cs.take (cs.length - 9) else cs
  else cs

/-- Cuts a text into lines of a width. -/
def chunks (width : Nat) : Nat → List Char → List (List Char)
  | 0, _ => []
  | _ + 1, [] => []
  | fuel + 1, cs => cs.take width :: chunks width fuel (cs.drop width)

/-- Octets, in lines of the width that is left. -/
def bytesText (place : TextPlace) (style : ScalarStyle) (octets : List UInt8) : List Char :=
  let digits := Text.encodeBase64 octets
  let width := max (lineWidth - place.indent) contentWidth
  let lines := chunks width (digits.length + 1) digits
  let text :=
    if style = .doubleQuoted then digits
    else List.intercalate [if style = .literal then '\n' else ' '] lines
  styled place style false (String.ofList text)

/-- A scalar without a tag that says how it is written. -/
def atomText (place : TextPlace) (style : ScalarStyle) (source : String) : Atom → List Char
  | .null => nullText source
  | .bool b => place.schema.boolText b source
  | .number x format => place.schema.numberText x format
  | .text s =>
    if place.schema = .legacy && s = "<<" then s.toList else styled place style true s
  | .instant t => instantText t
  | .bytes octets => bytesText place style octets
  | .mergeKey => "<<".toList

/-- A scalar. -/
def scalarText (place : TextPlace) (tag : Option String) (style : ScalarStyle) (source : String)
    (atom : Atom) : Except Malformed (List Char) :=
  let byAtom : Except Malformed (List Char) := .ok (atomText place style source atom)
  match (tag.map ScalarTag.ofName).getD .other, atom with
  | .text, .text s => .ok (styled place style true s)
  | .null, _ => .ok (nullText source)
  | .bool, .text s => .ok (place.schema.boolText (s ≠ "") source)
  | .integer, .text s | .float, .text s => .ok (misfitNumber s)
  | .timestamp, .text _ => .error (.badContent (tag.getD ""))
  | .merge, _ => .ok "<<".toList
  | .collection, .text s => .ok (styled place style false s)
  | .specialCollection, .text s => .ok (styled place style (place.schema = .core) s)
  | _, _ => byAtom

/-- What is written for a collection with the tag of a scalar. -/
def misfitCollection? (schema : Schema) (tag : Option String) : Option (List Char) :=
  let inLegacy (text : String) : Option (List Char) :=
    if schema = .legacy then some text.toList else none
  match (tag.map ScalarTag.ofName).getD .other with
  | .text => some "undefined".toList
  | .null => some "null".toList
  | .bool => some "false".toList
  | .integer | .float => some ".nan".toList
  | .binary | .timestamp => inLegacy ""
  | .merge => inLegacy "<<"
  | .collection | .specialCollection | .other => none

end LiteralLexer.Yaml
