import LiteralLexer.Yaml.Malformed
import LiteralLexer.Yaml.Phrase.Basic

/-!
# What leads up to a node

Before a node stand blanks, line breaks and comments, its properties and an indicator.  A `Lead` is
what these lexemes amount to.  Reading them checks that they are separated where they have to be,
that nothing comes twice, and that tabulators are not taken for indentation.
-/

namespace LiteralLexer.Yaml

/-- What follows the lexemes of a lead. -/
inductive Follower where
  | nothing
  | lexeme (kind : LexemeKind)
  | phrase (p : Phrase)

namespace Follower

/-- The follower of what stands before a key: the key, or the first lexeme behind it. -/
def ofKey (key : Option Phrase) (sep : Option (List Lexeme)) : Follower :=
  match key, sep with
  | some p, _ => .phrase p
  | none, some (l :: _) => .lexeme l.kind
  | none, _ => .nothing

/-- The follower of what stands before a value. -/
def ofValue : Option Phrase → Follower
  | some p => .phrase p
  | none => .nothing

/-- Whether a property may stand right before it. -/
def isSeparate : Follower → Bool
  | .nothing => true
  | .lexeme kind => kind = .space || kind = .newline || kind = .comma
  | .phrase (.word l _) => l.kind = .scalar && l.text.isEmpty
  | .phrase _ => false

/-- A collection in block style. -/
def isBlockCollection : Follower → Bool
  | .phrase p => p.isBlockCollection
  | _ => false

/-- A collection in flow style. -/
def isFlowCollection : Follower → Bool
  | .phrase (.flow ..) => true
  | _ => false

end Follower

/-- Where a lead stands. -/
structure LeadPlace where
  /-- Inside a flow collection. -/
  inFlow : Bool := false
  /-- The indicator that may come. -/
  indicator : LexemeKind
  next : Follower
  /-- Where the lead starts. -/
  offset : Nat
  /-- The column of the collection. -/
  indent : Nat
  /-- The lead stands at the start of a line. -/
  onNewline : Bool

/-- What leads up to a node. -/
structure Lead where
  comma : Bool := false
  /-- The indicator. -/
  found : Option Lexeme := none
  /-- An empty line comes before anything else. -/
  spaceBefore : Bool := false
  comment : List Char := []
  hasNewline : Bool := false
  anchor : Option Lexeme := none
  tag : Option Lexeme := none
  /-- The last line break behind a property. -/
  newlineAfter : Option Lexeme := none
  /-- Where the first property starts, or else where the lead ends. -/
  start : Nat := 0
  /-- Where the lead ends. -/
  stop : Nat := 0

/-- A lead that is being read. -/
structure LeadReader where
  lead : Lead := {}
  atNewline : Bool
  hasSpace : Bool
  /-- The last lexeme was a property, which has to be set off. -/
  afterProperty : Bool := false
  /-- The last lexeme was a blank with a tabulator. -/
  tab : Option Lexeme := none
  /-- The line breaks behind the last comment. -/
  breaks : List Char := []
  start : Option Nat := none

namespace LeadReader

/-- The checks on a lexeme that depend on the one before it. -/
def check (r : LeadReader) (l : Lexeme) : Except Malformed Unit := do
  if r.afterProperty && !(Follower.lexeme l.kind).isSeparate then throw .missingBlank
  if r.tab.isSome && r.atNewline && l.kind ≠ .comment && l.kind ≠ .newline then
    throw .tabIndentation

/-- Reads a comment. -/
def readComment (r : LeadReader) (l : Lexeme) : Except Malformed LeadReader :=
  if r.hasSpace then
    let text := if l.text.length ≤ 1 then [' '] else l.text.drop 1
    let comment :=
      if r.lead.comment.isEmpty then text else r.lead.comment ++ r.breaks ++ text
    .ok { r with lead := { r.lead with comment }, breaks := [], atNewline := false }
  else .error .missingBlank

/-- Reads a line break. -/
def readNewline (place : LeadPlace) (r : LeadReader) (l : Lexeme) : LeadReader :=
  let lead := r.lead
  let lead := { lead with
    hasNewline := true
    newlineAfter :=
      if lead.anchor.isSome || lead.tag.isSome then some l else lead.newlineAfter }
  let r := { r with hasSpace := true }
  if r.atNewline then
    if lead.comment.isEmpty then
      let counts := lead.found.isNone || place.indicator ≠ .entry
      { r with lead := { lead with spaceBefore := lead.spaceBefore || counts } }
    else { r with lead := { lead with comment := lead.comment ++ l.text } }
  else { r with lead, breaks := r.breaks ++ l.text, atNewline := true }

/-- Reads a lexeme. -/
def read (place : LeadPlace) (r : LeadReader) (l : Lexeme) : Except Malformed LeadReader := do
  r.check l
  let r := { r with afterProperty := false, tab := none }
  let atProperty := { r with
    atNewline := false, hasSpace := false, afterProperty := true, start := r.start.or (some l.offset) }
  match l.kind with
  | .space =>
    let counts := !place.inFlow
      && (place.indicator ≠ .documentStart || !place.next.isFlowCollection)
      && l.text.contains '\t'
    return { r with hasSpace := true, tab := if counts then some l else none }
  | .comment => r.readComment l
  | .newline => return r.readNewline place l
  | .anchor =>
    if r.lead.anchor.isSome then throw .repeatedProperty
    return { atProperty with lead := { r.lead with anchor := some l } }
  | .tag =>
    if r.lead.tag.isSome then throw .repeatedProperty
    return { atProperty with lead := { r.lead with tag := some l } }
  | kind =>
    if kind = place.indicator then
      if r.lead.anchor.isSome || r.lead.tag.isSome then throw .misplacedProperty
      if r.lead.found.isSome then throw (.unexpected (String.ofList l.text))
      return { r with
        lead := { r.lead with found := some l }
        atNewline := place.indicator = .entry || place.indicator = .explicitKey
        hasSpace := false }
    else if kind = .comma && place.inFlow && !r.lead.comma then
      return { r with lead := { r.lead with comma := true }, atNewline := false, hasSpace := false }
    else throw (.unexpected (String.ofList l.text))

end LeadReader

/-- The lead that lexemes amount to. -/
def Lead.ofLexemes (place : LeadPlace) (ls : List Lexeme) : Except Malformed Lead := do
  let first : LeadReader := { atNewline := place.onNewline, hasSpace := place.onNewline }
  let r ← ls.foldlM (LeadReader.read place) first
  if r.afterProperty && !place.next.isSeparate then throw .missingBlank
  if r.tab.any fun tab =>
      r.atNewline && tab.indent ≤ place.indent || place.next.isBlockCollection then
    throw .tabIndentation
  let stop := match ls.getLast? with
    | some l => l.stop
    | none => place.offset
  return { r.lead with start := r.start.getD stop, stop }

/-- The comment in the lexemes behind a node, which hold nothing else but blanks and line
breaks.  A comment has to be set off if `strict`. -/
def endComment (strict : Bool) (ls : List Lexeme) : Except Malformed (List Char) :=
  go false [] [] ls
where
  /-- Goes on with the comment so far and the line breaks behind it. -/
  go (spaced : Bool) (comment breaks : List Char) : List Lexeme → Except Malformed (List Char)
    | [] => .ok comment
    | l :: ls =>
      match l.kind with
      | .space => go true comment breaks ls
      | .comment =>
        if strict && !spaced then .error .missingBlank
        else
          let text := if l.text.length ≤ 1 then [' '] else l.text.drop 1
          go spaced (if comment.isEmpty then text else comment ++ breaks ++ text) [] ls
      | .newline => go true comment (if comment.isEmpty then breaks else breaks ++ l.text) ls
      | _ => .error (.unexpected (String.ofList l.text))

/-- The units that lexemes take. -/
def widthOf (ls : List Lexeme) : Nat := ls.foldl (fun n l => n + l.width) 0

/-- Where an empty node stands, if the lexemes before it end at a place: behind the last lexeme with
content and the blanks after it. -/
def emptyPlace (stop : Nat) (before : List Lexeme) : Nat :=
  let trivia := (before.reverse.takeWhile (·.kind.isTrivia)).reverse
  let base := stop - widthOf trivia
  if trivia.length = before.length then base
  else base + widthOf (trivia.takeWhile (·.kind = .space))

end LiteralLexer.Yaml
