import LiteralLexer.Yaml.Node.Basic

/-!
# Anchors and references

A reference names the latest anchor of its name before it, also one of a collection that it stands
in.  `Node.link` numbers the anchors of a document in the order in which they are written, and puts
the number into every reference; `Node.anchored` lists the nodes with anchors, so that the number is
the place in this list.
-/

namespace LiteralLexer.Yaml

/-- The anchors so far. -/
structure Linker where
  count : Nat := 0
  /-- The names with their numbers, the latest first. -/
  names : List (String × Nat) := []

/-- Numbers the anchor of a node, if it has one. -/
def Linker.enter (linker : Linker) (notes : Notes) : Notes × Linker :=
  match notes.anchor with
  | none => (notes, linker)
  | some anchor =>
    ({ notes with anchor := some { anchor with number := linker.count } },
      { count := linker.count + 1, names := (anchor.name, linker.count) :: linker.names })

mutual

/-- Links a node behind the anchors so far. -/
def linkNode (linker : Linker) : Node → Node × Linker
  | .scalar notes style source atom =>
    let (notes, linker) := linker.enter notes
    (.scalar notes style source atom, linker)
  | .reference notes name _ => (.reference notes name (linker.names.lookup name), linker)
  | .sequence notes items =>
    let (notes, linker) := linker.enter notes
    let (items, linker) := linkItems linker items
    (.sequence notes items, linker)
  | .mapping notes isSet entries =>
    let (notes, linker) := linker.enter notes
    let (entries, linker) := linkEntries linker entries
    (.mapping notes isSet entries, linker)
  | .pairs notes isOrdered entries =>
    let (notes, linker) := linker.enter notes
    let (entries, linker) := linkEntries linker entries
    (.pairs notes isOrdered entries, linker)

def linkItems (linker : Linker) : List Node → List Node × Linker
  | [] => ([], linker)
  | item :: items =>
    let (item, linker) := linkNode linker item
    let (items, linker) := linkItems linker items
    (item :: items, linker)

def linkEntries (linker : Linker) :
    List (Node × Option Node) → List (Node × Option Node) × Linker
  | [] => ([], linker)
  | (key, value) :: entries =>
    let (key, linker) := linkNode linker key
    let (value, linker) := match value with
      | some node =>
        let (node, linker) := linkNode linker node
        (some node, linker)
      | none => (none, linker)
    let (entries, linker) := linkEntries linker entries
    ((key, value) :: entries, linker)

end

namespace Node

/-- The node with all references linked. -/
def link (node : Node) : Node := (linkNode {} node).1

mutual

/-- The nodes with anchors, in the order in which they are written. -/
def anchored : Node → List Node
  | .scalar notes style source atom =>
    if notes.anchor.isSome then [.scalar notes style source atom] else []
  | .reference .. => []
  | .sequence notes items =>
    (if notes.anchor.isSome then [.sequence notes items] else []) ++ anchoredItems items
  | .mapping notes isSet entries =>
    (if notes.anchor.isSome then [.mapping notes isSet entries] else []) ++ anchoredEntries entries
  | .pairs notes isOrdered entries =>
    (if notes.anchor.isSome then [.pairs notes isOrdered entries] else [])
      ++ anchoredEntries entries

def anchoredItems : List Node → List Node
  | [] => []
  | item :: items => item.anchored ++ anchoredItems items

def anchoredEntries : List (Node × Option Node) → List Node
  | [] => []
  | (key, value) :: entries =>
    let inValue := match value with
      | some node => node.anchored
      | none => []
    key.anchored ++ inValue ++ anchoredEntries entries

end

mutual

/-- How many nodes a node holds, itself included. -/
def size : Node → Nat
  | .scalar .. | .reference .. => 1
  | .sequence _ items => 1 + sizeItems items
  | .mapping _ _ entries | .pairs _ _ entries => 1 + sizeEntries entries

def sizeItems : List Node → Nat
  | [] => 0
  | item :: items => item.size + sizeItems items

def sizeEntries : List (Node × Option Node) → Nat
  | [] => 0
  | (key, value) :: entries =>
    let inValue := match value with
      | some node => node.size
      | none => 0
    key.size + inValue + sizeEntries entries

end

end Node

end LiteralLexer.Yaml
