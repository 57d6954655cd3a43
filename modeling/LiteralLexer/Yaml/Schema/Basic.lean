import LiteralLexer.Text.Base64
import LiteralLexer.Yaml.Malformed
import LiteralLexer.Yaml.Schema.Core
import LiteralLexer.Yaml.Schema.Legacy

/-!
# Schemas

A schema says what the scalars of a document mean.  A plain scalar is read by its text; a tag
restricts the choice.  A tag that does not fit the text leaves it text, except that a tag may insist
on a form.
-/

namespace LiteralLexer.Yaml

/-- The schema of a document. -/
inductive Schema where
  | core
  /-- The schema of version 1.1. -/
  | legacy
  deriving DecidableEq, Repr

/-- The name of a standard tag in full. -/
def standardTag (name : String) : String := "tag:yaml.org,2002:" ++ name

/-- What a tag of a scalar asks for, by its full name. -/
inductive ScalarTag where
  | text
  | null
  | bool
  | integer
  | float
  | binary
  | timestamp
  | merge
  /-- A tag of lists and mappings. -/
  | collection
  /-- A tag of collections that the legacy schema knows besides. -/
  | specialCollection
  | other
  deriving DecidableEq, Repr

/-- The meaning of a full name of a tag. -/
def ScalarTag.ofName (name : String) : ScalarTag :=
  let standard : List (String × ScalarTag) :=
    [("str", .text), ("null", .null), ("bool", .bool), ("int", .integer), ("float", .float),
      ("binary", .binary), ("timestamp", .timestamp), ("merge", .merge), ("map", .collection),
      ("seq", .collection), ("set", .specialCollection), ("omap", .specialCollection),
      ("pairs", .specialCollection)]
  match standard.find? fun (short, _) => standardTag short = name with
  | some (_, tag) => tag
  | none => .other

namespace Schema

/-- The meaning of a plain scalar other than text. -/
def plain? (schema : Schema) (atKey : Bool) (text : String) : Option Atom :=
  match schema with
  | .core => Core.plain? text
  | .legacy => Legacy.plain? atKey text

/-- The meaning of a plain scalar. -/
def readPlain (schema : Schema) (atKey : Bool) (text : String) : Atom :=
  (schema.plain? atKey text).getD (.text text)

/-- A boolean. -/
def boolean? : Schema → String → Option Atom
  | .core => Core.boolean?
  | .legacy => Legacy.boolean?

/-- An integer. -/
def integer? (schema : Schema) (text : String) : Option Atom :=
  match schema with
  | .core => Core.integer? text
  | .legacy => (Legacy.integer? text).or (Legacy.sexagesimal? false text)

/-- A number with a fraction, an exponent or no finite value. -/
def float? (schema : Schema) (text : String) : Option Atom :=
  match schema with
  | .core => Core.float? text
  | .legacy => (Legacy.float? text).or (Legacy.sexagesimal? true text)

/-- The meaning of a scalar with a tag. -/
def readTagged (schema : Schema) (tag text : String) : Except Malformed Atom :=
  let orText (atom : Option Atom) : Except Malformed Atom := .ok (atom.getD (.text text))
  match ScalarTag.ofName tag with
  | .null => orText (null? text)
  | .bool => orText (schema.boolean? text)
  | .integer => orText (schema.integer? text)
  | .float => orText (schema.float? text)
  | .binary => .ok (.bytes (Text.decodeBase64 text.toList))
  | .timestamp =>
    match Legacy.instant? text, schema with
    | some t, _ => .ok (.instant t)
    | none, .core => .error (.badContent tag)
    | none, .legacy => .ok (.text text)
  | .merge =>
    match schema with
    | .core => .ok .mergeKey
    | .legacy => .ok (if text = "<<" then .mergeKey else .text text)
  | .text | .collection | .specialCollection | .other => .ok (.text text)

end Schema

end LiteralLexer.Yaml
