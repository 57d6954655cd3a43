import LiteralLexer.Lexer.Transform

/-!
# Lexers

A `Lexer` delivers one token at a time.  Each step reads one cluster and offers it to the stages.
An accepting stage has read one cluster too many, so the cursor steps back over it; after a
rejection the cursor stays where the stage gave up, but not behind the text.  A cluster that every
stage declines goes to the fallback.

The outcome of a step depends on nothing but the source and the position.
-/

namespace LiteralLexer

/-- What becomes of a cluster that every stage declines. -/
abbrev Fallback := Reading → Token × Reading

/-- Wraps the cluster and reads nothing further. -/
def Fallback.undefined : Fallback := fun r => (.undefined r.current.text, r)

/-- How a lexer reads. -/
structure LexerOptions where
  stages : List Stage := Stage.defaults
  fallback : Fallback := Fallback.undefined
  sentinel : String := Source.defaultSentinel

/-- A lexer at a position of its text. -/
structure Lexer where
  stages : List Stage
  fallback : Fallback
  cursor : Cursor

namespace Lexer

/-- A lexer at the beginning of a text.  Some stage has to notice the end of the text. -/
def ofText (text : String) (options : LexerOptions) : Except LexFailure Lexer :=
  if options.stages.any Stage.isEndOfInput then do
    let source ← Source.ofText text options.sentinel
    return { stages := options.stages, fallback := options.fallback, cursor := { source } }
  else .error .missingEndOfInput

/-- The text that is read. -/
def text (l : Lexer) : String := l.cursor.source.text

/-- The sentinel behind the text. -/
def sentinel (l : Lexer) : String := l.cursor.source.sentinel.text

/-- The position in the text. -/
def position (l : Lexer) : Int := l.cursor.position

/-- Starts over with another text, up to the same sentinel. -/
def setText (l : Lexer) (text : String) : Except LexFailure Lexer := do
  let source ← Source.ofClusters (Cluster.ofText text) l.cursor.source.sentinel
  return { l with cursor := { source } }

/-- Moves to a position. -/
def seek (l : Lexer) (position : Binary64) : Except CursorError Lexer := do
  return { l with cursor := ← l.cursor.seek position }

/-- The next token or what is wrong, and the lexer afterwards. -/
def nextToken (l : Lexer) : Except LexFailure Token × Lexer :=
  match Stage.offer l.stages (Reading.start l.cursor) with
  | .accept token r => (.ok token, { l with cursor := r.cursor.rewind 1 })
  | .reject failure r => (.error failure, { l with cursor := r.cursor.cap })
  | .decline r =>
    let (token, r) := l.fallback r
    (.ok token, { l with cursor := r.cursor })

/-- The next token, or what is wrong with the text in its place.  Other failures remain failures. -/
def tryNextToken (l : Lexer) : Except LexFailure (Except LocatedFault Token) × Lexer :=
  match l.nextToken with
  | (.ok token, l) => (.ok (.ok token), l)
  | (.error (.malformed fault), l) => (.ok (.error fault), l)
  | (.error failure, l) => (.error failure, l)

/-- An attempt at a token leaves the lexer where the token itself would. -/
theorem tryNextToken_snd (l : Lexer) : l.tryNextToken.2 = l.nextToken.2 := by
  unfold tryNextToken
  split <;> simp_all

end Lexer

end LiteralLexer
