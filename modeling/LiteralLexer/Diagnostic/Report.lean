import LiteralLexer.Cluster.Segmentation
import LiteralLexer.Diagnostic.Basic

/-!
# Reports

A report shows a diagnostic together with the lines of the text around its place:

```
error[code]: Unterminated string literal: expected closing `"`
  --> 2:4
   |
 1 | -flag
 2 | 42 "open
   |    ^
   |
```

The lines are cut by `Cluster.lines`, so a snippet and a location never disagree about line numbers.
-/

namespace LiteralLexer

/-! ## Snippets -/

/-- A numbered line of a text. -/
structure SnippetLine where
  number : Int
  content : String
  isErrorLine : Bool
  deriving DecidableEq, Repr

/-- The lines around a span. -/
structure Snippet where
  lines : List SnippetLine
  highlight : Span
  deriving DecidableEq, Repr

/-- Why a report could not be drawn. -/
inductive ReportError where
  /-- The span names a line that the text does not have. -/
  | spanOutOfBounds
  /-- The caret would stand before the first column; `count` is the room it needs. -/
  | negativePadding (count : Int)
  deriving DecidableEq, Repr

/-- What is said about a report that could not be drawn. -/
def ReportError.message : ReportError → String
  | .spanOutOfBounds => "Span exceeds source bounds"
  | .negativePadding count => "Invalid count value: " ++ toString count

namespace Snippet

/-- How many lines are shown before and after a span unless asked otherwise. -/
def defaultContext : Int := 2

/-- The texts of the lines of a source. -/
def sourceLines (source : String) : List String :=
  (Cluster.lines (Cluster.ofText source)).map Cluster.joinText

/-- The numbered lines from `first` to `last` among all lines of a source. -/
def numbered (all : List String) (span : Span) (first last : Int) : List SnippetLine :=
  (List.range (last - first + 1).toNat).map fun (i : Nat) =>
    let number := first + i
    { number
      content := all[(number - 1).toNat]?.getD ""
      isErrorLine := span.first.line ≤ number && number ≤ span.last.line }

/-- The lines around a span, at most `context` of them before it and after it.  An empty source
has no lines to show. -/
def extract (source : String) (span : Span) (context : Int) :
    Except ReportError Snippet :=
  if source = "" then .ok ⟨[], span⟩
  else
    let all := sourceLines source
    let inBounds (line : Int) : Bool := 1 ≤ line && line ≤ all.length
    if !inBounds span.first.line || !inBounds span.last.line then .error .spanOutOfBounds
    else
      let first := max 1 (span.first.line - context)
      let last := min (all.length : Int) (span.last.line + context)
      .ok ⟨numbered all span first last, span⟩

end Snippet

/-! ## Diagnostics with their snippets -/

/-- A diagnostic with the lines around its place. -/
structure EnrichedDiagnostic where
  kind : ErrorKind
  detail : String
  span : Option Span
  context : Option Context
  snippet : Option Snippet
  deriving Repr

/-- Adds the lines around the place of a diagnostic.  There are none without a place, nor for a
place outside the source. -/
def Diagnostic.enrich (d : Diagnostic) (source : String) : EnrichedDiagnostic :=
  let span : Option Span := d.location.map fun l => ⟨l, l⟩
  { kind := d.kind
    detail := d.detail
    span
    context := d.context
    snippet := span.bind fun span =>
      if source = "" then none else (Snippet.extract source span Snippet.defaultContext).toOption }

/-! ## Layout of a report -/

/-- Blanks, `n` of them. -/
def blanks (n : Nat) : String := String.ofList (List.replicate n ' ')

/-- A text at the right end of a field of blanks. -/
def alignRight (width : Nat) (s : String) : String := blanks (width - s.length) ++ s

namespace Snippet

/-- The width of the greatest line number. -/
def numberWidth (s : Snippet) : Nat :=
  (s.lines.map fun line => (toString line.number).length).foldl max 0

/-- The row of a line, and below an error line the row with the caret. -/
def rows (width : Nat) (column : Int) (line : SnippetLine) : Except ReportError (List String) :=
  let row := " " ++ alignRight width (toString line.number) ++ " | " ++ line.content
  if !line.isErrorLine then .ok [row]
  else if column < 1 then .error (.negativePadding (column - 1))
  else .ok [row, " " ++ blanks width ++ " | " ++ blanks (column - 1).toNat ++ "^"]

/-- A snippet between two empty rows. -/
def draw (s : Snippet) : Except ReportError (List String) := do
  let width := s.numberWidth
  let margin := " " ++ blanks width ++ " |"
  let body ← s.lines.mapM (rows width s.highlight.first.column)
  return margin :: body.flatten ++ [margin]

end Snippet

/-- The report of a diagnostic: its heading, its place and its snippet, as far as it has them. -/
def EnrichedDiagnostic.report (d : EnrichedDiagnostic) : Except ReportError String := do
  let heading := "error[" ++ d.kind.code ++ "]: " ++ d.detail
  let place := match d.span with
    | some span =>
      ["  --> " ++ toString span.first.line ++ ":" ++ toString span.first.column]
    | none => []
  let snippet ← match d.snippet with
    | some s => if s.lines.isEmpty then pure [] else s.draw
    | none => pure []
  return String.intercalate "\n" (heading :: place ++ snippet)

/-- The report of a diagnostic about a source. -/
def Diagnostic.report (d : Diagnostic) (source : String) : Except ReportError String :=
  (d.enrich source).report

/-! ## Other failures -/

/-- A failure from outside the lexer: a message, and details by name. -/
structure Failure where
  message : String
  details : List (String × Value) := []
  deriving Repr

/-- The report of a failure.  A file that does not exist is named. -/
def Failure.report (f : Failure) : String :=
  match f.details.lookup "code", f.details.lookup "path" with
  | some (.text "ENOENT"), some path => "File not found: " ++ path.display
  | _, _ => f.message

end LiteralLexer
