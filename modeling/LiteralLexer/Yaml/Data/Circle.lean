import LiteralLexer.Yaml.Data.Evaluate

/-!
# Circles

Data that hold themselves cannot be written as JSON.  The search goes through the data in the order
in which they would be written, and describes the first circle that it runs into.
-/

namespace LiteralLexer.Yaml

/-- The place of data in a collection. -/
inductive Step where
  | item (index : Nat)
  | entry (key : String)
  deriving DecidableEq, Repr

/-- The words for a place. -/
def Step.text : Step → String
  | .item index => "index " ++ toString index
  | .entry key => if key = "" then "<anonymous>" else "property '" ++ key ++ "'"

/-- A collection on the way to data: its place in the collection before, and what it is. -/
structure Stage where
  identity : Nat
  step : Step
  isList : Bool
  deriving Repr

/-- The words for a collection. -/
def Stage.text (stage : Stage) : String :=
  "object with constructor '" ++ (if stage.isList then "Array" else "Object") ++ "'"

/-- Collections of which each one holds the next one, and the last one holds the first one at the
given place. -/
structure Circle where
  first : Stage
  further : List Stage
  last : Step
  deriving Repr

namespace Circle

/-- A collection on the circle. -/
def line (stage : Stage) : String := "\n    |     " ++ stage.step.text ++ " -> " ++ stage.text

/-- The description of a circle.  Of a long one, the middle is left out. -/
def message (circle : Circle) : String :=
  let front := circle.further.take 2
  let rest := circle.further.drop 2
  let middle := if 1 < rest.length then "\n    |     ..." else ""
  let back := rest.drop (rest.length - 1)
  "Converting circular structure to JSON\n    --> starting at " ++ circle.first.text
    ++ String.join (front.map line) ++ middle ++ String.join (back.map line)
    ++ "\n    --- " ++ circle.last.text ++ " closes the circle"

/-- The circle that closes where a collection is found again.  The way to it has the latest
collection first. -/
def close? (way : List Stage) (identity : Nat) (last : Step) : Option Circle :=
  match way.reverse.dropWhile (·.identity ≠ identity) with
  | first :: further => some { first, further, last }
  | [] => none

end Circle

namespace Memory

/-- Data that are no pointer back. -/
def resolve (memory : Memory) : Data → Data
  | .again identity isList => (memory.finished.lookup identity).getD (.again identity isList)
  | data => data

/-- The first circle in data at a place. -/
def circle? (memory : Memory) : Nat → List Stage → Step → Data → Option Circle
  | 0, _, _, _ => none
  | fuel + 1, way, step, data =>
    match memory.resolve data with
    | .list identity items =>
      (Circle.close? way identity step).or <|
        items.zipIdx.findSome? fun (item, i) =>
          memory.circle? fuel ({ identity, step, isList := true } :: way) (.item i) item
    | .mapping identity entries =>
      (Circle.close? way identity step).or <|
        entries.findSome? fun (key, item) =>
          memory.circle? fuel ({ identity, step, isList := false } :: way) (.entry key) item
    | _ => none

end Memory

end LiteralLexer.Yaml
