import LiteralLexer.Yaml.Schema.Atom

/-!
# Nodes

The tree that a document spells out.  Besides the meaning of its scalars, a node keeps what is
written around it, as far as that shows when the node is written again: anchors, tags, comments and
the style of a scalar.
-/

namespace LiteralLexer.Yaml

/-- The style of a scalar. -/
inductive ScalarStyle where
  | plain
  | singleQuoted
  | doubleQuoted
  /-- In a block, with the line breaks as they stand. -/
  | literal
  /-- In a block, with the line breaks folded. -/
  | folded
  deriving DecidableEq, Repr

/-- A style in blocks. -/
def ScalarStyle.isBlock : ScalarStyle → Bool
  | .literal | .folded => true
  | _ => false

/-- An anchor: its name, and its number among the anchors of the document. -/
structure Anchor where
  name : String
  number : Nat := 0
  deriving DecidableEq, Repr

/-- What is written around a node. -/
structure Notes where
  anchor : Option Anchor := none
  /-- The full name of the tag. -/
  tag : Option String := none
  /-- An empty line stands before the node. -/
  spaceBefore : Bool := false
  commentBefore : List Char := []
  /-- The comment behind the node. -/
  comment : List Char := []
  deriving Repr

/-- A node of a document. -/
inductive Node where
  /-- A scalar with its text and what it stands for. -/
  | scalar (notes : Notes) (style : ScalarStyle) (source : String) (atom : Atom)
  /-- A reference to the node with an anchor, by the number of the anchor if there is one. -/
  | reference (notes : Notes) (name : String) (target : Option Nat)
  | sequence (notes : Notes) (items : List Node)
  /-- A mapping, or a set, whose entries have no values. -/
  | mapping (notes : Notes) (isSet : Bool) (entries : List (Node × Option Node))
  /-- A list of pairs, which may be read as a mapping that keeps their order. -/
  | pairs (notes : Notes) (isOrdered : Bool) (entries : List (Node × Option Node))
  deriving Repr

namespace Node

/-- What is written around a node. -/
def notes : Node → Notes
  | .scalar notes .. | .reference notes .. | .sequence notes _ | .mapping notes .. | .pairs notes .. =>
    notes

/-- Changes what is written around a node. -/
def annotate (f : Notes → Notes) : Node → Node
  | .scalar notes style source atom => .scalar (f notes) style source atom
  | .reference notes name target => .reference (f notes) name target
  | .sequence notes items => .sequence (f notes) items
  | .mapping notes isSet entries => .mapping (f notes) isSet entries
  | .pairs notes isOrdered entries => .pairs (f notes) isOrdered entries

/-- A collection. -/
def isCollection : Node → Bool
  | .sequence .. | .mapping .. | .pairs .. => true
  | _ => false

/-- A scalar. -/
def isScalar : Node → Bool
  | .scalar .. => true
  | _ => false

/-- Two scalars that cannot both be keys of one mapping. -/
def sameKey : Node → Node → Bool
  | .scalar _ _ _ a, .scalar _ _ _ b => a.same b
  | _, _ => false

/-- An empty value: none at all, or a null without anything written around it. -/
def isEmptyValue : Option Node → Bool
  | none => true
  | some (.scalar notes _ _ .null) =>
    notes.commentBefore.isEmpty && notes.comment.isEmpty && notes.tag.isNone
  | some _ => false

end Node

/-- Two comments, one below the other. -/
def joinComments (above below : List Char) : List Char :=
  if above.isEmpty then below else if below.isEmpty then above else above ++ '\n' :: below

end LiteralLexer.Yaml
