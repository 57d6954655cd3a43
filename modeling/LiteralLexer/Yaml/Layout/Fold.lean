import LiteralLexer.Text.Units

/-!
# Folding long lines

A text that is too long for a line is broken at single blanks, as late as the width allows.  Between
double quotes it may be broken anywhere, with a backslash at the end of the line, but not inside an
escape.  Widths are counted in units.
-/

namespace LiteralLexer.Yaml

/-- The width that lines should not exceed. -/
def lineWidth : Nat := 80

/-- The width that is left for content however deep it is indented. -/
def contentWidth : Nat := 20

/-- Where lines are broken. -/
structure Folding where
  units : Array (Option Char)
  /-- The text is in double quotes. -/
  isQuoted : Bool
  /-- How many units further the next break lies at most. -/
  step : Nat
  /-- The indentation of further lines. -/
  indent : Nat
  /-- From here on a break is due. -/
  limit : Int
  /-- The last blank where the line can be broken. -/
  split : Option Nat := none
  /-- The character before. -/
  previous : Option Char := none
  /-- The start and the end of the last escape. -/
  escape : Option (Nat × Nat) := none
  /-- The places of the breaks, the latest first; those that need a backslash are marked. -/
  folds : List (Nat × Bool) := []
  /-- The text cannot be broken to fit. -/
  failed : Bool := false

namespace Folding

/-- The character at a place; the second unit of a pair counts as some character. -/
def charAt (f : Folding) (i : Nat) : Option Char := f.units[i]?.map (·.getD '\ufffd')

/-- A blank or a line break. -/
def isSpace (c : Char) : Bool := c = ' ' || c = '\n' || c = '\t'

/-- How many units follow the backslash of an escape. -/
def escapeLength : Option Char → Nat
  | some 'x' => 3
  | some 'u' => 5
  | some 'U' => 9
  | _ => 1

/-- Moves over the blanks before a place that is broken in the middle of a line. -/
def passBlanks (f : Folding) : Nat → Nat → Option Char → Option Char → Nat × Option Char
  | 0, i, _, current => (i, current)
  | fuel + 1, i, previous, current =>
    if previous = some ' ' || previous = some '\t' then
      f.passBlanks fuel (i + 1) current (f.charAt (i + 1))
    else (i, current)

/-- Breaks the text although there is no blank, two units before the place but not inside an
escape. -/
def breakAnywhere (f : Folding) (i : Nat) : Folding :=
  let place := match f.escape with
    | some (start, stop) => if stop + 1 < i then i - 2 else start - 1
    | none => i - 2
  if f.folds.contains (place, true) then { f with failed := true }
  else
    { f with folds := (place, true) :: f.folds, limit := place + f.step, split := none }

/-- Finds the breaks from a place on. -/
def run : Nat → Nat → Folding → Folding
  | 0, _, f => f
  | fuel + 1, i, f =>
    match f.charAt i with
    | none => f
    | some c =>
      let (f, i) :=
        if f.isQuoted && c = '\\' then
          let stop := i + escapeLength (f.charAt (i + 1))
          ({ f with escape := some (i, stop) }, stop)
        else (f, i)
      if c = '\n' then
        run fuel (i + 1)
          { f with limit := i + f.indent + f.step, split := none, previous := some c }
      else
        let canSplit := c = ' ' && f.previous.any (!isSpace ·)
          && (f.charAt (i + 1)).any (!isSpace ·)
        let f := if canSplit then { f with split := some i } else f
        if f.limit ≤ i then
          match f.split with
          | some place =>
            run fuel (i + 1)
              { f with
                folds := (place, false) :: f.folds, limit := place + f.step, split := none,
                previous := some c }
          | none =>
            if f.isQuoted then
              let (i, current) := f.passBlanks (f.units.size + 1) i f.previous (some c)
              let f := f.breakAnywhere i
              if f.failed then f else run fuel (i + 1) { f with previous := current }
            else run fuel (i + 1) { f with previous := some c }
        else run fuel (i + 1) { f with previous := some c }

/-- The part of the text between two places. -/
def slice (f : Folding) (start stop : Nat) : List Char :=
  Text.gather (f.units.extract start stop).toList

/-- The text behind the breaks, given in order. -/
def assemble (f : Folding) (indentation : List Char) : List (Nat × Bool) → List Char
  | [] => []
  | (place, escaped) :: folds =>
    let stop := match folds with
      | (next, _) :: _ => next
      | [] => f.units.size
    let mark := if escaped then f.slice place (place + 1) ++ ['\\'] else []
    mark ++ '\n' :: indentation ++ f.slice (place + 1) stop ++ f.assemble indentation folds

end Folding

/-- Breaks a text into lines.  Further lines are indented by `indent`; `atStart` tells how far the
first line is filled already. -/
def foldText (isQuoted : Bool) (indent : Nat) (atStart : Option Nat) (text : List Char) :
    List Char :=
  let units := (Text.spread text).toArray
  let step := max (1 + contentWidth) (1 + lineWidth - indent)
  if units.size ≤ step then text
  else
    let full := atStart.any (lineWidth - contentWidth < ·)
    let limit : Int := match atStart with
      | some n => if full then (lineWidth : Int) - indent else (lineWidth : Int) - n
      | none => (lineWidth : Int) - indent
    let f := Folding.run (units.size + 1) 0 { units, isQuoted, step, indent, limit }
    let indentation := List.replicate indent ' '
    if f.failed then text
    else
      let folds := f.folds.reverse
      let first := match folds with
        | (place, _) :: _ => place
        | [] => units.size
      let start := if full then '\n' :: indentation else []
      start ++ f.slice 0 first ++ f.assemble indentation folds

end LiteralLexer.Yaml
