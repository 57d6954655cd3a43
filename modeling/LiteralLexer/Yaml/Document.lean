import LiteralLexer.Yaml.Data.Circle
import LiteralLexer.Yaml.Phrase.Build

/-!
# YAML documents

A text holds one document: directives, the markers `---` and `...` around the content, and the
content itself, one node.  `Document.ofText` reads a text to the data that it spells.
-/

namespace LiteralLexer.Yaml

/-! ## Directives -/

/-- The words of a directive. -/
def words (text : List Char) : List (List Char) :=
  let step (c : Char) : List (List Char) → List (List Char)
    | [] => [[c]]
    | word :: words => if isBlank c then [] :: word :: words else (c :: word) :: words
  ((Text.trim text).foldr step [[]]).filter (!·.isEmpty)

/-- Whether a text is a version: two numbers with a point between them. -/
def isVersion (cs : List Char) : Bool :=
  match cs.dropWhile Char.isDigit with
  | '.' :: minor => cs.head?.any Char.isDigit && !minor.isEmpty && minor.all Char.isDigit
  | _ => false

/-- Obeys a directive.  Those of unknown name are passed over, and so are unknown versions. -/
def Setting.direct (setting : Setting) (text : List Char) : Except Malformed Setting :=
  match words text with
  | [] => .ok setting
  | name :: arguments =>
    if name = "%TAG".toList then
      match arguments with
      | [handle, meaning] =>
        let handles := setting.handles.declare (String.ofList handle) (String.ofList meaning)
        .ok { setting with handles }
      | _ => .error .badDirective
    else if name = "%YAML".toList then
      match arguments with
      | [version] =>
        if version = "1.1".toList then .ok { setting with schema := .legacy }
        else if version = "1.2".toList then .ok { setting with schema := .core }
        else if isVersion version then .ok setting
        else .error .badDirective
      | _ => .error .badDirective
    else .ok setting

/-! ## Documents -/

/-- A document with what it was read with. -/
structure Composed where
  setting : Setting
  node : Node

/-- What was read of a text. -/
structure DocumentReader where
  setting : Setting := {}
  /-- A directive was read, but no document behind it. -/
  directed : Bool := false
  document : Option Composed := none

namespace DocumentReader

/-- What follows the lexemes before the content of a document. -/
def follower (content : Option Phrase) (ending : List Lexeme) : Follower :=
  match content, ending with
  | some p, _ => .phrase p
  | none, l :: _ => .lexeme l.kind
  | none, [] => .nothing

/-- Reads a document. -/
def readDocument (r : DocumentReader) (start : List Lexeme) (content : Option Phrase)
    (ending : List Lexeme) : Except Malformed DocumentReader := do
  let lead ← Lead.ofLexemes
    { indicator := .documentStart, next := follower content ending, offset := 0, indent := 0,
      onNewline := true } start
  if lead.found.isSome && !lead.hasNewline && content.any Phrase.isBlockCollection then
    throw .missingBreak
  let (node, _) ← match content with
    | some p => Node.ofPhrase r.setting false true lead p
    | none => r.setting.empty lead (emptyPlace lead.stop start)
  discard (endComment false ending)
  if r.directed && lead.found.isNone then throw .badDirective
  if r.document.isSome then throw .severalDocuments
  return { r with document := some { setting := r.setting, node }, directed := false }

/-- Reads a part of a text. -/
def read (r : DocumentReader) : Part → Except Malformed DocumentReader
  | .directive text => do return { r with setting := ← r.setting.direct text, directed := true }
  | .document start content ending => r.readDocument start content ending
  | .documentEnd ending => do
    if r.document.isNone then throw (.unexpected "...")
    discard (endComment true ending)
    return r
  | .broken => .error (.unexpected "text between documents")

end DocumentReader

/-- The only document of a text, if the text is not empty. -/
def composed? (text : List Char) : Except Malformed (Option Composed) := do
  let r ← (parts text).foldlM DocumentReader.read {}
  if r.document.isNone && r.directed then throw .badDirective
  return r.document

/-- A document: its data, and what is needed to follow the pointers in them. -/
structure Document where
  data : Data
  memory : Memory

namespace Document

/-- The document that a text spells. -/
def ofText (text : String) : Except Malformed Document := do
  match ← composed? text.toList with
  | some document =>
    let (data, memory) ← document.node.data document.setting
    return { data, memory }
  | none => return { data := .atom .null, memory := {} }

/-- The value of a document. -/
def value (d : Document) : Value := d.data.value

/-- The first circle in an item of a list that an entry of the document holds. -/
def itemCircle? (d : Document) (key : String) (index : Nat) : Option Circle :=
  match d.data with
  | .mapping _ entries =>
    match (entries.lookup key).map d.memory.resolve with
    | some (.list _ items) =>
      items[index]?.bind (d.memory.circle? (d.memory.next + 1) [] (.entry ""))
    | _ => none
  | _ => none

end Document

end LiteralLexer.Yaml
