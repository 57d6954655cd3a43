import LiteralLexer.Diagnostic.Kind
import LiteralLexer.Diagnostic.Template
import LiteralLexer.Location

/-!
# Diagnostics

A `Diagnostic` is an error of one of the five kinds, with its summary, its place in the text if it
has one, and the values that went into the summary.  The full message shows the place behind the
summary; `Diagnostic.detail` takes it off again by its looks.
-/

namespace LiteralLexer

/-- An error with its place and the values behind its wording. -/
structure Diagnostic where
  kind : ErrorKind
  summary : String
  location : Option Location
  context : Option Context
  deriving Repr

namespace Diagnostic

/-- A diagnostic worded by the template of its kind. -/
def ofContext (kind : ErrorKind) (context : Context) (location : Option Location) : Diagnostic where
  kind
  summary := Template.render kind.template context
  location
  context := some context

/-- How a place is shown behind a summary. -/
def placeSuffix (l : Location) : String := " at " ++ toString l.line ++ ":" ++ toString l.column

/-- The full message: the summary, and the place if there is one. -/
def message (d : Diagnostic) : String :=
  match d.location with
  | some l => d.summary ++ placeSuffix l
  | none => d.summary

/-- Drops a run of at least one digit from the front. -/
def dropDigits? (cs : List Char) : Option (List Char) :=
  match cs.dropWhile Char.isDigit with
  | rest => if rest.length < cs.length then some rest else none

/-- Takes the shape ` at digits:digits` off the end of a text, read backwards. -/
def dropPlace? (reversed : List Char) : Option (List Char) := do
  let afterColumn ← dropDigits? reversed
  match afterColumn with
  | ':' :: beforeColumn =>
    match ← dropDigits? beforeColumn with
    | ' ' :: 't' :: 'a' :: ' ' :: rest => some rest
    | _ => none
  | _ => none

/-- A text without a place at its end. -/
def withoutPlace (text : String) : String :=
  match dropPlace? text.toList.reverse with
  | some rest => String.ofList rest.reverse
  | none => text

/-- The message without its place. -/
def detail (d : Diagnostic) : String := withoutPlace d.message

end Diagnostic

/-- The code under which an error was asked for is not one of the five. -/
structure UnknownCode where
  code : String
  deriving DecidableEq, Repr

/-- What is said about an unknown code. -/
def UnknownCode.message (e : UnknownCode) : String := "Unknown error ID: " ++ e.code

namespace Diagnostic

/-- The kind with a code, or the complaint that there is none. -/
def kindOf (code : String) : Except UnknownCode ErrorKind :=
  match ErrorKind.ofCode? code with
  | some kind => .ok kind
  | none => .error ⟨code⟩

/-- A diagnostic with a code, worded by its template. -/
def create (code : String) (context : Context) (location : Option Location) :
    Except UnknownCode Diagnostic := do
  return ofContext (← kindOf code) context location

/-- A diagnostic with a code and a wording of its own. -/
def withSummary (code : String) (summary : String) (location : Option Location)
    (context : Option Context) : Except UnknownCode Diagnostic := do
  return { kind := ← kindOf code, summary, location, context }

end Diagnostic

end LiteralLexer
