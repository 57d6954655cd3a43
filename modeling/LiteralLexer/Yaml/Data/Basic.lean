import LiteralLexer.Value.Basic
import LiteralLexer.Yaml.Schema.Atom

/-!
# Data

What a document means.  A collection has an identity, so that a place where it holds itself can point
back to it; `Data.value` forgets the identities.

The entries of a mapping are held in a fixed order: keys that look like the index of a list come
first, by number, and all others follow as they were written.
-/

namespace LiteralLexer.Yaml

/-- The meaning of a node. -/
inductive Data where
  | atom (a : Atom)
  | list (identity : Nat) (items : List Data)
  | mapping (identity : Nat) (entries : List (String × Data))
  /-- A set, or a mapping that keeps its order.  Nobody can see what it holds. -/
  | box (identity : Nat) (isSet : Bool)
  /-- A collection that this is a part of. -/
  | again (identity : Nat) (isList : Bool)
  deriving Repr

namespace Data

/-- The identity of a collection. -/
def identity? : Data → Option Nat
  | .atom _ => none
  | .list n _ | .mapping n _ | .box n _ | .again n _ => some n

/-- Whether two data are one and the same. -/
def same : Data → Data → Bool
  | .atom a, .atom b => a.identical b
  | a, b => a.identity?.isSome && a.identity? = b.identity?

/-- The value of an atom. -/
def ofAtom : Atom → Value
  | .null => .null
  | .bool b => .bool b
  | .number x _ => .number x
  | .text s => .text s
  | .instant t => .instant t
  | .bytes octets => .bytes octets
  | .mergeKey => .hidden

mutual

/-- The value without identities.  A collection inside itself is empty there. -/
def value : Data → Value
  | .atom a => ofAtom a
  | .list _ items => .list (values items)
  | .mapping _ entries => .mapping (entryValues entries)
  | .box _ isSet => .box isSet
  | .again _ isList => if isList then .list [] else .mapping []

def values : List Data → List Value
  | [] => []
  | item :: items => item.value :: values items

def entryValues : List (String × Data) → List (String × Value)
  | [] => []
  | (key, data) :: entries => (key, data.value) :: entryValues entries

end

mutual

/-- The name of a field that is looked up by data, if it is not hidden. -/
def fieldName? : Data → Option String
  | .atom .mergeKey => none
  | .atom a => some (ofAtom a).display
  | .list _ items => some (String.intercalate "," (fieldNames items))
  | .mapping .. => some "[object Object]"
  | .box _ isSet => some (if isSet then "[object Set]" else "[object Map]")
  | .again _ isList => some (if isList then "" else "[object Object]")

/-- The names of the items of a list, where null is empty. -/
def fieldNames : List Data → List String
  | [] => []
  | .atom .null :: items => "" :: fieldNames items
  | item :: items => (item.fieldName?.getD "") :: fieldNames items

end

end Data

/-! ## Entries -/

/-- The number that a key spells if it looks like the index of a list: decimal, without leading
zeros, and below 2 ^ 32 - 1. -/
def indexKey? (key : String) : Option Nat :=
  match Text.digits? 10 key.toList with
  | some n => if toString n = key && n < 0xffffffff then some n else none
  | none => none

/-- Sets the value of a key.  A key that is there already keeps its place. -/
def setEntry {κ α : Type} (same : κ → κ → Bool) (key : κ) (value : α) :
    List (κ × α) → List (κ × α)
  | [] => [(key, value)]
  | (k, v) :: entries =>
    if same k key then (k, value) :: entries else (k, v) :: setEntry same key value entries

/-- Adds the value of a key unless the key has one already. -/
def addEntry {κ α : Type} (same : κ → κ → Bool) (key : κ) (value : α) (entries : List (κ × α)) :
    List (κ × α) :=
  if entries.any fun (k, _) => same k key then entries else entries ++ [(key, value)]

/-- Entries in the order of a mapping. -/
def orderEntries {α : Type} (entries : List (String × α)) : List (String × α) :=
  let indices := entries.filter fun (k, _) => (indexKey? k).isSome
  let others := entries.filter fun (k, _) => (indexKey? k).isNone
  let byIndex (a b : String × α) : Bool := (indexKey? a.1).getD 0 ≤ (indexKey? b.1).getD 0
  indices.mergeSort byIndex ++ others

end LiteralLexer.Yaml
