import LiteralLexer.FileSystem.Basic
import LiteralLexer.Lexer.Transform
import LiteralLexer.Suggestion.Basic
import LiteralLexer.Value.Json

/-!
# Configurations

A configuration says which transforms run, in which order, whether comments are kept, and which
character marks the end of a text.  It is written as a YAML mapping; a field that is left out has
its default.  The parser of YAML is a parameter.

`Config.ofValue` checks the fields of a document one by one and stops at the first one that is wrong.
What it accepts is always fit for a lexer: every transform comes once, one of them notices the end of
the text, and the sentinel is a single cluster.
-/

namespace LiteralLexer

/-- How a text is to be lexed. -/
structure Config where
  transforms : List Transform := Transform.defaultOrder
  includeComments : Bool := true
  sentinel : String := Source.defaultSentinel
  deriving DecidableEq, Repr

/-- What a parser makes of a text: the value of the document, and for every item that holds itself, of a
list under a key, what is said when it should be written as JSON. -/
structure ConfigDocument where
  value : Value
  itemFault? : (key : String) → (index : Nat) → Option String := fun _ _ => none

/-- A parser of documents.  A text that is none is refused with a reason. -/
abbrev DocumentParser := String → Except String ConfigDocument

/-- What can be wrong with a configuration. -/
inductive ConfigError where
  /-- The text is no document. -/
  | malformed (reason : String)
  /-- The document has no fields, as it is a scalar or a list. -/
  | notMapping
  | unknownField (name : String)
  | commentsNotBoolean
  | transformsNotList
  /-- The list of transforms holds something else than a name, at a place. -/
  | transformNotText (index : Nat) (entry : Value)
  /-- The list of transforms holds something that holds itself. -/
  | circular (message : String)
  | unknownTransform (name : String)
  | duplicateTransform (transform : Transform)
  | missingEndOfInput
  | sentinelNotSingle
  /-- The file is there, but cannot be read. -/
  | unreadable (reason : ReadError)
  deriving Repr

namespace ConfigError

/-- The names that an unknown transform may have been meant to be. -/
def hint (name : String) : String :=
  match Suggestion.similarNames name Transform.names with
  | [] => ""
  | suggestions => " (did you mean " ++ String.intercalate ", " suggestions ++ "?)"

/-- What is wrong. -/
def reason : ConfigError → String
  | .malformed reason => "invalid YAML (" ++ reason ++ ")"
  | .notMapping => "must be a mapping"
  | .unknownField name => "unknown field " ++ name
  | .commentsNotBoolean => "includeComments must be a boolean"
  | .transformsNotList => "transforms must be a list"
  | .transformNotText _ entry => "transform names must be strings, got " ++ entry.json
  | .circular message => message
  | .unknownTransform name => "unknown transform " ++ name ++ hint name
  | .duplicateTransform transform => "duplicate transform " ++ transform.name
  | .missingEndOfInput => "transforms must include endOfInput"
  | .sentinelNotSingle => "endOfInput must be a single character"
  | .unreadable reason => "failed to read file (" ++ reason.message ++ ")"

/-- The message of an error.  A circle is no fault of a configuration only. -/
def message : ConfigError → String
  | .circular message => message
  | e => "Invalid configuration: " ++ e.reason

end ConfigError

namespace Config

/-- The name of the file that is read unless another one is asked for. -/
def fileName : String := ".litlex.yaml"

/-- The fields of a configuration. -/
def fields : List String := ["transforms", "includeComments", "endOfInput"]

/-- Reads the names of transforms.  `before` are the transforms of the names before them. -/
def transformsAfter (before : List Transform) : List Value → Except ConfigError (List Transform)
  | [] =>
    if .endOfInput ∈ before then .ok before else .error .missingEndOfInput
  | .text name :: entries =>
    match Transform.ofName? name with
    | none => .error (.unknownTransform name)
    | some transform =>
      if transform ∈ before then .error (.duplicateTransform transform)
      else transformsAfter (before ++ [transform]) entries
  | entry :: _ => .error (.transformNotText before.length entry)

/-- The transforms that a field lists. -/
def transformsOf : Value → Except ConfigError (List Transform)
  | .list entries => transformsAfter [] entries
  | _ => .error .transformsNotList

/-- Whether a field asks for comments. -/
def includeCommentsOf : Value → Except ConfigError Bool
  | .bool b => .ok b
  | _ => .error .commentsNotBoolean

/-- The sentinel that a field names. -/
def sentinelOf : Value → Except ConfigError String
  | .text s => if (Cluster.ofText? s).isSome then .ok s else .error .sentinelNotSingle
  | _ => .error .sentinelNotSingle

/-- The value of a field, or its default. -/
def field {α : Type} (entries : List (String × Value)) (name : String) (default : α)
    (read : Value → Except ConfigError α) : Except ConfigError α :=
  match entries.lookup name with
  | some value => read value
  | none => .ok default

/-- The configuration that fields describe. -/
def ofFields (entries : List (String × Value)) : Except ConfigError Config :=
  match entries.find? (·.1 ∉ fields) with
  | some (name, _) => .error (.unknownField name)
  | none => do
    let defaults : Config := {}
    let includeComments ←
      field entries "includeComments" defaults.includeComments includeCommentsOf
    let transforms ← field entries "transforms" defaults.transforms transformsOf
    let sentinel ← field entries "endOfInput" defaults.sentinel sentinelOf
    return { transforms, includeComments, sentinel }

/-- The fields of a value.  Everything but scalars and lists counts as a record: an instant, a set and an
ordered mapping have no fields, and octets have one for each of them. -/
def fieldsOf? : Value → Option (List (String × Value))
  | .mapping entries => some entries
  | .instant _ | .box _ => some []
  | .bytes octets =>
    some (octets.zipIdx.map fun (octet, i) => (toString i, .number (Binary64.ofInt octet.toNat)))
  | _ => none

/-- The configuration that a value describes.  An empty document leaves everything at its
default. -/
def ofValue (value : Value) : Except ConfigError Config :=
  match value with
  | .null => .ok {}
  | value =>
    match fieldsOf? value with
    | some entries => ofFields entries
    | none => .error .notMapping

/-- An error about a document.  What holds itself cannot be shown. -/
def errorIn (document : ConfigDocument) : ConfigError → ConfigError
  | .transformNotText index entry =>
    match document.itemFault? "transforms" index with
    | some message => .circular message
    | none => .transformNotText index entry
  | e => e

/-- The configuration that a text describes. -/
def ofText (parse : DocumentParser) (text : String) : Except ConfigError Config :=
  match parse text with
  | .ok document => (ofValue document.value).mapError (errorIn document)
  | .error reason => .error (.malformed reason)

end Config

end LiteralLexer
