import LiteralLexer.Yaml.Lexeme.Basic

/-!
# Phrases

The structure of a document before anything is given a meaning: which lexemes belong together.  A
phrase keeps every lexeme, also those that have no business where they stand; whether it makes sense
is decided when it is read as a node.
-/

namespace LiteralLexer.Yaml

/-- An item of a collection: the lexemes before its key, the key, the lexemes between key and value,
and the value.  An item of a block sequence has no key. -/
structure Item (α : Type) where
  start : List Lexeme := []
  /-- The key stands behind a question mark in block style. -/
  isExplicit : Bool := false
  key : Option α := none
  /-- The lexemes between key and value.  There are none only as long as no key was found. -/
  sep : Option (List Lexeme) := none
  value : Option α := none
  deriving Repr

/-- Lexemes that belong together. -/
inductive Phrase where
  /-- A plain or quoted scalar, or a reference, and the lexemes up to the end of its line. -/
  | word (lexeme : Lexeme) (ending : Option (List Lexeme))
  /-- A block scalar: its header, the indentation of what it belongs to, and its lines. -/
  | block (header : List Lexeme) (indent : Nat) (body : List Char)
  /-- A mapping in block style. -/
  | mapping (offset indent : Nat) (items : List (Item Phrase))
  /-- A sequence in block style. -/
  | sequence (offset indent : Nat) (items : List (Item Phrase))
  /-- A collection in flow style, and the lexemes from its last bracket to the end of the line. -/
  | flow (opening : Lexeme) (indent : Nat) (items : List (Item Phrase)) (closing : List Lexeme)
  /-- A lexeme that cannot stand where it was found. -/
  | broken (lexeme : Lexeme)
  deriving Repr

namespace Phrase

/-- A collection in block style. -/
def isBlockCollection : Phrase → Bool
  | .mapping .. | .sequence .. => true
  | _ => false

/-- A phrase that can be a key in one line. -/
def isFlow : Phrase → Bool
  | .word .. | .flow .. => true
  | _ => false

/-- The column that the phrase is laid out from, if it has one. -/
def indent? : Phrase → Option Nat
  | .word lexeme _ => some lexeme.indent
  | .block _ indent _ | .mapping _ indent _ | .sequence _ indent _ | .flow _ indent _ _ =>
    some indent
  | .broken _ => none

/-- The lexemes behind the phrase in its line, if it can have any. -/
def ending? : Phrase → Option (List Lexeme)
  | .word _ ending => ending
  | .flow _ _ _ closing => some closing
  | _ => none

/-- Adds lexemes behind a phrase. -/
def extend (p : Phrase) (more : List Lexeme) : Phrase :=
  match p with
  | .word lexeme ending => .word lexeme (some (ending.getD [] ++ more))
  | .flow opening indent items closing => .flow opening indent items (closing ++ more)
  | p => p

end Phrase

namespace Item

/-- An item of a flow sequence.  What looked like a key is the item itself unless a colon or a
question mark stands with it. -/
def settle (item : Item Phrase) : Item Phrase :=
  match item.sep with
  | none => item
  | some sep =>
    if item.value.isSome || Lexeme.includes .explicitKey item.start || Lexeme.includes .value sep
    then item
    else match item.key with
      | some key =>
        if key.isFlow then { item with key := none, sep := none, value := some (key.extend sep) }
        else { item with key := none, sep := none, value := some key, start := item.start ++ sep }
      | none => { item with sep := none, start := item.start ++ sep }

end Item

/-- The items of a flow collection once it is complete. -/
def settleItems (opening : Lexeme) (items : List (Item Phrase)) : List (Item Phrase) :=
  if opening.kind = .openSequence then items.map Item.settle else items

/-- A part of a text that may hold several documents. -/
inductive Part where
  | directive (text : List Char)
  | document (start : List Lexeme) (content : Option Phrase) (ending : List Lexeme)
  | documentEnd (ending : List Lexeme)
  /-- Something that cannot stand between documents. -/
  | broken
  deriving Repr

end LiteralLexer.Yaml
