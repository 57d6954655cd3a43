import LiteralLexer.Recognizer.Basic

/-!
# Booleans, characters, strings and flags

Quoted literals hold their text as it stands: there are no escapes, and a string may span lines.  A
boolean is a word by its letters alone, whatever comes after it.
-/

namespace LiteralLexer.Recognizer

/-- Accepts `true` and `false`. -/
def boolean : Recognizer := fun r =>
  if r.spells "true" then .accept (.boolean true) (r.advance 4)
  else if r.spells "false" then .accept (.boolean false) (r.advance 5)
  else .decline r

/-- Accepts one cluster between single quotes. -/
def character : Recognizer := fun r =>
  if r.current = Cluster.single '\'' then
    let content := r.next
    if content.current = Cluster.single '\'' then .fault r .emptyCharacter content
    else
      let closing := content.next
      if closing.current = Cluster.single '\'' then
        .accept (.character content.current.text) closing.next
      else .fault r .crowdedCharacter closing
  else .decline r

/-- Accepts text between double quotes. -/
def string : Recognizer := fun r =>
  if r.current = Cluster.single '"' then
    let (body, closing) := r.next.span fun c => c ≠ Cluster.single '"' && c ≠ r.sentinel
    if closing.current = Cluster.single '"' then
      .accept (.uninterpolatedString (Cluster.joinText body)) closing.next
    else .fault r .unterminatedString closing
  else .decline r

/-- Accepts a `-` that is followed by a letter, with all letters and digits after it. -/
def flag : Recognizer := fun r =>
  if r.current = Cluster.single '-' && (r.ahead 1).isLetter then
    let (name, rest) := r.next.span Cluster.isAlphanumeric
    .accept (.flag (Cluster.joinText name)) rest
  else .decline r

end LiteralLexer.Recognizer
