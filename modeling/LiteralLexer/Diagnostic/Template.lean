import LiteralLexer.Value.Basic

/-!
# Message templates

A template is text with named places between braces.  Filling it in replaces every place by the
value of that name, or by nothing when there is no such value.  The values are not looked at again,
so braces inside a value stay what they are.  A template with a brace that is never closed is not a
template at all and stands for itself.
-/

namespace LiteralLexer

/-- The named values that a message may refer to. -/
abbrev Context := List (String × Value)

namespace Template

/-- The text that is put into a place. -/
def valueText (context : Context) (name : String) : String :=
  match context.lookup name with
  | some value => value.display
  | none => ""

/-- Fills in a template behind what is done already.  `name?` holds the characters of the name that
is being read, last one first.  There is no result when the template ends inside a name. -/
def renderFrom (context : Context) :
    (name? : Option (List Char)) → (done : String) → List Char → Option String
  | none, done, [] => some done
  | some _, _, [] => none
  | none, done, c :: cs =>
    if c = '\x7b' then renderFrom context (some []) done cs
    else renderFrom context none (done.push c) cs
  | some name, done, c :: cs =>
    if c = '\x7d' then
      renderFrom context none (done ++ valueText context (String.ofList name.reverse)) cs
    else renderFrom context (some (c :: name)) done cs

/-- A template filled in from the named values. -/
def render (template : String) (context : Context) : String :=
  (renderFrom context none "" template.toList).getD template

end Template

end LiteralLexer
