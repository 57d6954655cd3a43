import LiteralLexer.Yaml.Data.Basic
import LiteralLexer.Yaml.Layout.Node
import LiteralLexer.Yaml.Node.Link

/-!
# From nodes to data

Gives a tree of nodes its meaning: references are replaced by what their anchors name, the entries
of a mapping are keyed by text, and merge keys take over the entries of other mappings.

References are counted, so that a small document cannot spell out something huge: the number of
references to an anchor, times those that the anchored node holds itself, has a limit.
-/

namespace LiteralLexer.Yaml

/-- What is known about an anchor whose node was evaluated. -/
structure Mark where
  name : String
  /-- How often the node is used. -/
  count : Nat := 1
  /-- The greatest number of uses among what the node holds, once it is known. -/
  weight : Nat := 0
  data : Data

/-- The memory of an evaluation. -/
structure Memory where
  /-- The identity of the next collection. -/
  next : Nat := 0
  /-- The anchors by their numbers. -/
  marks : List (Nat × Mark) := []
  /-- The collections with anchors that are complete, by their identities. -/
  finished : List (Nat × Data) := []

/-- An evaluation, which changes the memory or finds the document malformed. -/
abbrev Evaluation := StateT Memory (Except Malformed)

/-- The document that is evaluated. -/
structure Evaluator where
  setting : Setting
  /-- The nodes with anchors, by their numbers. -/
  anchored : Array Node

/-- The greatest number of uses that an anchor may amount to. -/
def referenceLimit : Nat := 100

mutual

/-- The greatest number of uses among what a node holds. -/
def Memory.weight (memory : Memory) : Node → Nat
  | .scalar .. => 1
  | .reference _ _ target =>
    match target.bind (memory.marks.lookup ·) with
    | some mark => mark.count * mark.weight
    | none => 0
  | .sequence _ items => memory.weightOfItems items
  | .mapping _ _ entries | .pairs _ _ entries => memory.weightOfEntries entries

def Memory.weightOfItems (memory : Memory) : List Node → Nat
  | [] => 0
  | item :: items => max (memory.weight item) (memory.weightOfItems items)

def Memory.weightOfEntries (memory : Memory) : List (Node × Option Node) → Nat
  | [] => 0
  | (key, value) :: entries =>
    let ofValue := match value with
      | some node => memory.weight node
      | none => 1
    max (max (memory.weight key) ofValue) (memory.weightOfEntries entries)

end

namespace Memory

/-- Sets what is known about an anchor. -/
def setMark (number : Nat) (mark : Mark) (memory : Memory) : Memory :=
  { memory with marks := setEntry (· == ·) number mark memory.marks }

/-- Completes a collection.  Its anchor may belong to a later evaluation of the same node by now. -/
def finish (number identity : Nat) (data : Data) (memory : Memory) : Memory :=
  let complete (mark : Mark) : Mark :=
    if mark.data.identity? = some identity then { mark with data } else mark
  { memory with
    marks := memory.marks.map fun (n, mark) => (n, if n = number then complete mark else mark)
    finished := (identity, data) :: memory.finished }

end Memory

namespace Evaluation

/-- The identity of a new collection. -/
def fresh : Evaluation Nat := fun memory => .ok (memory.next, { memory with next := memory.next + 1 })

/-- Evaluates a collection, given what its items evaluate to.  Its anchor names the collection while
it is not complete. -/
def collection (notes : Notes) (isList : Bool) (build : Nat → Evaluation Data) :
    Evaluation Data := do
  let identity ← fresh
  match notes.anchor with
  | none => build identity
  | some anchor =>
    modify (.setMark anchor.number { name := anchor.name, data := .again identity isList })
    let data ← build identity
    modify (.finish anchor.number identity data)
    return data

/-- Counts a use of an anchor. -/
def useMark (number : Nat) (mark : Mark) (node : Node) : Evaluation Data := do
  let counted := { mark with count := mark.count + 1 }
  modify (.setMark number counted)
  let memory ← get
  let weight := if mark.weight = 0 then memory.weight node else mark.weight
  modify (.setMark number { counted with weight })
  if referenceLimit < counted.count * weight then throw .excessiveReferences
  return mark.data

end Evaluation

namespace Evaluator

/-- A key under which the entries of other mappings are taken over. -/
def isMergeKey (e : Evaluator) : Node → Bool
  | .scalar _ _ _ .mergeKey => true
  | .scalar _ style _ (.text s) => e.setting.schema = .legacy && style = .plain && s = "<<"
  | _ => false

/-- The node that a reference names; any other node is itself. -/
def target? (e : Evaluator) : Node → Option Node
  | .reference _ _ target => target.bind (e.anchored[·]?)
  | node => some node

/-- The mappings that a merge key takes the entries of. -/
def mergeSources (e : Evaluator) (value : Option Node) :
    Except Malformed (List (List (Node × Option Node))) :=
  let source (node : Node) : Except Malformed (List (Node × Option Node)) :=
    match e.target? node with
    | some (.mapping _ false entries) => .ok entries
    | some (.mapping _ true []) => .ok []
    | _ => .error .badMergeSource
  match value.bind e.target? with
  | some (.sequence _ items) => items.mapM source
  | some (.pairs _ _ []) => .ok []
  | some node => do return [← source node]
  | none => .error .badMergeSource

/-- The text of a key.  A null key is empty, and a collection is written out. -/
def keyText (e : Evaluator) (node : Node) (data : Data) : Evaluation String := do
  let names := (← get).marks.map fun (_, mark) => mark.name
  let written : Evaluation String := do
    return String.ofList (← keyLayout e.setting names node)
  match data with
  | .atom .null => return ""
  | .atom .mergeKey => return "Symbol(<<)"
  | .atom (.instant t) => if node.isScalar then return t.longText else written
  | .atom (.bytes octets) => if node.isScalar then return Text.decodeUtf8 octets else written
  | .atom a => return (Data.ofAtom a).display
  | _ => written

section Entries

variable (e : Evaluator) (evaluate : Node → Evaluation Data)

/-- The value of an entry. -/
def entryValue : Option Node → Evaluation Data
  | some node => evaluate node
  | none => return .atom .null

/-- The entries of a mapping that others take over, with their keys as they are.  Their keys and
values are evaluated for every mapping that takes them over. -/
def rawEntries (merge : List (Node × Option Node) → Evaluation (List (Data × Data))) :
    List (Data × Data) → List (Node × Option Node) → Evaluation (List (Data × Data))
  | acc, [] => return acc
  | acc, (key, value) :: entries =>
    if e.isMergeKey key then do
      let sources ← e.mergeSources value
      let merged ← sources.foldlM (fun acc source => do
        return (← merge source).foldl (fun acc (k, v) => addEntry Data.same k v acc) acc) acc
      rawEntries merge merged entries
    else do
      let k ← evaluate key
      let v ← entryValue evaluate value
      rawEntries merge (setEntry Data.same k v acc) entries

/-- The entries of a mapping, keyed by text. -/
def textEntries (merge : List (Node × Option Node) → Evaluation (List (Data × Data))) :
    List (String × Data) → List (Node × Option Node) → Evaluation (List (String × Data))
  | acc, [] => return acc
  | acc, (key, value) :: entries =>
    if e.isMergeKey key then do
      let sources ← e.mergeSources value
      let merged ← sources.foldlM (fun acc source => do
        return (← merge source).foldl (fun acc (k, v) =>
          match k.fieldName? with
          | some name => addEntry (· == ·) name v acc
          | none => acc) acc) acc
      textEntries merge merged entries
    else do
      let k ← e.keyText key (← evaluate key)
      let v ← entryValue evaluate value
      textEntries merge (setEntry (· == ·) k v acc) entries

/-- Evaluates the keys of a set. -/
def setKeys (merge : List (Node × Option Node) → Evaluation (List (Data × Data))) :
    List (Node × Option Node) → Evaluation Unit
  | [] => return ()
  | (key, value) :: entries => do
    if e.isMergeKey key then
      for source in ← e.mergeSources value do
        discard (merge source)
    else discard (evaluate key)
    setKeys merge entries

/-- Evaluates the pairs of a mapping that keeps its order.  No key may come twice. -/
def orderedPairs : List Data → List (Node × Option Node) → Evaluation Unit
  | _, [] => return ()
  | seen, (key, value) :: entries => do
    let k ← evaluate key
    discard (entryValue evaluate value)
    if seen.any k.same then throw .duplicateKey
    orderedPairs (k :: seen) entries

end Entries

mutual

/-- The meaning of a node.  Only a merge key that refers to its own mapping uses up the fuel. -/
def evaluate (e : Evaluator) : Nat → Node → Evaluation Data
  | 0, _ => throw .tooDeep
  | fuel + 1, node =>
    match node with
    | .scalar notes _ _ atom => do
      if let some anchor := notes.anchor then
        modify (.setMark anchor.number { name := anchor.name, data := .atom atom })
      return .atom atom
    | .reference _ name target => do
      let unknown : Malformed := .unknownAnchor name
      let some number := target | throw unknown
      let some node := e.anchored[number]? | throw unknown
      if ((← get).marks.lookup number).isNone then discard (e.evaluate fuel node)
      let some mark := (← get).marks.lookup number | throw unknown
      Evaluation.useMark number mark node
    | .sequence notes items =>
      Evaluation.collection notes true fun identity => do
        return .list identity (← items.mapM (e.evaluate fuel))
    | .mapping notes false entries =>
      Evaluation.collection notes false fun identity => do
        let entries ← e.textEntries (e.evaluate fuel) (e.mergedEntries fuel) [] entries
        return .mapping identity (orderEntries entries)
    | .mapping notes true entries =>
      Evaluation.collection notes false fun identity => do
        e.setKeys (e.evaluate fuel) (e.mergedEntries fuel) entries
        return .box identity true
    | .pairs notes true entries =>
      Evaluation.collection notes false fun identity => do
        orderedPairs (e.evaluate fuel) [] entries
        return .box identity false
    | .pairs notes false entries =>
      Evaluation.collection notes true fun identity => do
        let items ← entries.mapM fun entry => do
          let single ← Evaluation.fresh
          let entries ← e.textEntries (e.evaluate fuel) (e.mergedEntries fuel) [] [entry]
          return Data.mapping single (orderEntries entries)
        return .list identity items

/-- The entries that a mapping lends to another one. -/
def mergedEntries (e : Evaluator) :
    Nat → List (Node × Option Node) → Evaluation (List (Data × Data))
  | 0, _ => throw .tooDeep
  | fuel + 1, entries => e.rawEntries (e.evaluate fuel) (e.mergedEntries fuel) [] entries

end

end Evaluator

/-- The data of a document, and the memory of the evaluation. -/
def Node.data (setting : Setting) (node : Node) : Except Malformed (Data × Memory) :=
  let linked := node.link
  let e : Evaluator := { setting, anchored := linked.anchored.toArray }
  (e.evaluate (4 * linked.size + 64) linked).run {}

end LiteralLexer.Yaml
