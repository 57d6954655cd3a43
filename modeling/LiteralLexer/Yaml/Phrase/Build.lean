import LiteralLexer.Yaml.Lexeme.Scan
import LiteralLexer.Yaml.Phrase.Basic

/-!
# Building phrases

The pieces of a document are put together one after the other.  The phrases that are not complete
yet form a stack of frames, the innermost first.  A piece is offered to the innermost frame: either
the frame takes it in, or the frame is complete, becomes a part of the frame around it, and the piece
is offered to that one.

The indentation of the current line decides which frames a piece can belong to.
-/

namespace LiteralLexer.Yaml

/-- A phrase that is not complete yet.  Of the items of a collection, the latest comes first. -/
inductive Frame where
  | document (start : List Lexeme) (content : Option Phrase) (ending : List Lexeme)
  | documentEnd (ending : List Lexeme)
  | word (lexeme : Lexeme) (ending : Option (List Lexeme))
  | block (header : List Lexeme) (body : List Char)
  | mapping (offset indent : Nat) (last : Item Phrase) (before : List (Item Phrase))
  | sequence (offset indent : Nat) (last : Item Phrase) (before : List (Item Phrase))
  | flow (opening : Lexeme) (items : List (Item Phrase)) (closing : List Lexeme)
  deriving Repr

namespace Frame

/-- The indentation of a frame, as far as block scalars in it are concerned. -/
def indent : Frame → Nat
  | .word lexeme _ => lexeme.indent
  | .mapping _ indent _ _ | .sequence _ indent _ _ => indent
  | .flow opening _ _ => opening.indent
  | .document .. | .documentEnd _ | .block .. => 0

/-- The phrase of a complete frame inside another one. -/
def phrase? (parent : Frame) : Frame → Option Phrase
  | .word lexeme ending => some (.word lexeme ending)
  | .block header body => some (.block header parent.indent body)
  | .mapping offset indent last before => some (.mapping offset indent (before.reverse ++ [last]))
  | .sequence offset indent last before =>
    some (.sequence offset indent (before.reverse ++ [last]))
  | .flow opening items closing =>
    let indent := match parent with
      | .document .. => 0
      | _ => opening.indent
    some (.flow opening indent (settleItems opening items.reverse) closing)
  | .document .. | .documentEnd _ => none

/-- The part that a complete outermost frame is. -/
def part : Frame → Part
  | .document start content ending => .document start content ending
  | .documentEnd ending => .documentEnd ending
  | _ => .broken

end Frame

/-- Splits the lexemes that belong to the first key of a mapping off those before a node: those
behind the last line break or indicator, without the blanks they start with. -/
def splitKeyStart (ls : List Lexeme) : List Lexeme × List Lexeme :=
  let isBound (l : Lexeme) : Bool :=
    l.kind ∈ [.documentStart, .explicitKey, .value, .entry, .newline]
  let behind := (ls.reverse.takeWhile (!isBound ·)).reverse
  let own := behind.dropWhile (·.kind = .space)
  (ls.take (ls.length - own.length), own)

/-- Takes the lexemes of a first key off what stands before it in a frame. -/
def Frame.takeKeyStart : Frame → Frame × List Lexeme
  | .document start content ending =>
    let (kept, own) := splitKeyStart start
    (.document kept content ending, own)
  | .mapping offset indent last before =>
    match last.sep with
    | some sep =>
      let (kept, own) := splitKeyStart sep
      (.mapping offset indent { last with sep := some kept } before, own)
    | none =>
      let (kept, own) := splitKeyStart last.start
      (.mapping offset indent { last with start := kept } before, own)
  | .sequence offset indent last before =>
    let (kept, own) := splitKeyStart last.start
    (.sequence offset indent { last with start := kept } before, own)
  | frame => (frame, [])

/-- The lexemes of an empty last item, which belong to what is around the collection rather than
to the collection, and the collection without them. -/
def splitTrailing? : Phrase → Option (List Lexeme × Phrase)
  | .mapping offset indent items => do
    let last ← items.getLast?
    if isTrailing indent last then some (last.start, .mapping offset indent items.dropLast)
    else none
  | .sequence offset indent items => do
    let last ← items.getLast?
    if isTrailing indent last then some (last.start, .sequence offset indent items.dropLast)
    else none
  | _ => none
where
  /-- Nothing but blanks, line breaks, and comments that are not indented like the collection. -/
  isTrailing (indent : Nat) (last : Item Phrase) : Bool :=
    last.sep.isNone && last.value.isNone && !last.start.isEmpty && Lexeme.allTrivia last.start
      && (indent = 0 || last.start.all fun l => l.kind ≠ .comment || l.indent < indent)

/-- The state of building. -/
structure Builder where
  stack : List Frame := []
  /-- Nothing but indentation and block indicators was read of the line. -/
  atLineStart : Bool := true
  /-- The indentation of the line. -/
  indent : Nat := 0
  /-- The units read so far. -/
  offset : Nat := 0
  /-- A key was read in the line. -/
  onKeyLine : Bool := false
  /-- The complete parts, the latest first. -/
  parts : List Part := []

namespace Builder

/-- Opens a frame. -/
def push (b : Builder) (frame : Frame) : Builder := { b with stack := frame :: b.stack }

/-- Adds a complete part. -/
def emit (b : Builder) (part : Part) : Builder := { b with parts := part :: b.parts }

/-- Makes a complete phrase a part of the innermost of the given frames. -/
def place (b : Builder) (p : Phrase) : List Frame → Builder
  | [] => b.emit .broken
  | .document start _ _ :: rest =>
    let (ending, p) := match splitTrailing? p with
      | some (trailing, p) => (trailing, p)
      | none => ([], p)
    { b with stack := .document start (some p) ending :: rest }
  | .mapping offset indent last before :: rest =>
    if last.value.isSome then
      { b with
        stack := .mapping offset indent { key := some p, sep := some [] } (last :: before) :: rest
        onKeyLine := true }
    else if last.sep.isSome then
      let frame := match splitTrailing? p with
        | some (start, p) =>
          .mapping offset indent { start } ({ last with value := some p } :: before)
        | none => .mapping offset indent { last with value := some p } before
      { b with stack := frame :: rest }
    else
      { b with
        stack := .mapping offset indent { last with key := some p, sep := some [] } before :: rest
        onKeyLine := !last.isExplicit }
  | .sequence offset indent last before :: rest =>
    let (last, before) :=
      if last.value.isSome then ({ : Item Phrase }, last :: before) else (last, before)
    let frame := match splitTrailing? p with
      | some (start, p) =>
        .sequence offset indent { start } ({ last with value := some p } :: before)
      | none => .sequence offset indent { last with value := some p } before
    { b with stack := frame :: rest }
  | .flow opening items closing :: rest =>
    let fresh : Item Phrase := { key := some p, sep := some [] }
    let items := match items with
      | [] => [fresh]
      | last :: before =>
        if last.value.isSome then fresh :: last :: before
        else if last.sep.isSome then { last with value := some p } :: before
        else { last with key := some p, sep := some [] } :: before
    { b with stack := .flow opening items closing :: rest }
  | .block header body :: rest =>
    let header := match p with
      | .broken lexeme => header ++ [lexeme]
      | _ => header
    { b with stack := .block header body :: rest }
  | .word .. :: _ | .documentEnd _ :: _ => b.emit .broken

/-- Completes the innermost frame. -/
def pop (b : Builder) : Builder :=
  match b.stack with
  | [] => b.emit .broken
  | [frame] => { b.emit frame.part with stack := [] }
  | frame :: parent :: rest =>
    match parent.phrase? frame with
    | some p => b.place p (parent :: rest)
    | none => { b.emit frame.part with stack := parent :: rest }

/-- Completes frames as long as the innermost one is a flow collection. -/
def popFlows : Nat → Builder → Builder
  | 0, b => b
  | fuel + 1, b =>
    match b.stack with
    | .flow .. :: _ => popFlows fuel b.pop
    | _ => b

/-- Completes all frames. -/
def popAll : Nat → Builder → Builder
  | 0, b => b
  | fuel + 1, b => if b.stack.isEmpty then b else popAll fuel b.pop

/-! ## Starting a phrase -/

/-- The frame that a lexeme opens inside another frame, and that frame afterwards: the lexemes of a
first key go to the mapping that starts with it. -/
def opened? (l : Lexeme) (parent : Frame) : Option (Frame × Frame) :=
  match l.kind with
  | .reference | .scalar | .singleQuoted | .doubleQuoted => some (.word l none, parent)
  | .blockHeader => some (.block [l] [], parent)
  | .openMapping | .openSequence => some (.flow l [] [], parent)
  | .entry => some (.sequence l.offset l.indent { start := [l] } [], parent)
  | .explicitKey =>
    let (parent, start) := parent.takeKeyStart
    some (.mapping l.offset l.indent { start := start ++ [l], isExplicit := true } [], parent)
  | .value =>
    let (parent, start) := parent.takeKeyStart
    some (.mapping l.offset l.indent { start, sep := some [l] } [], parent)
  | _ => none

/-- Opens the frame of a lexeme inside the innermost frame, which is `parent`. -/
def openInside? (b : Builder) (l : Lexeme) (parent : Frame) (rest : List Frame) :
    Option Builder :=
  (opened? l parent).map fun (frame, parent) =>
    { b with
      stack := frame :: parent :: rest
      onKeyLine := b.onKeyLine || l.kind = .explicitKey || l.kind = .value }

/-! ## Taking in a lexeme

Each function gives the state after the innermost frame has taken in a lexeme, or nothing if the
frame is complete without it. -/

/-- A frame behind whose content only the end of the line is missing. -/
def takeEnding? (b : Builder) (l : Lexeme) (extended : Frame) (rest : List Frame) :
    Option Builder :=
  match l.kind with
  | .comma | .documentStart | .documentEnd | .closeSequence | .closeMapping | .value => none
  | .newline => some { b with stack := extended :: rest, onKeyLine := false }.pop
  | _ => some { b with stack := extended :: rest }

/-- A document. -/
def takeDocument? (b : Builder) (l : Lexeme) (start : List Lexeme) (content : Option Phrase)
    (ending : List Lexeme) (rest : List Frame) : Option Builder :=
  let more := some { b with stack := .document (start ++ [l]) content ending :: rest }
  if content.isSome then b.takeEnding? l (.document start content (ending ++ [l])) rest
  else match l.kind with
    | .documentStart => if Lexeme.allTrivia start then more else none
    | .anchor | .tag | .space | .comment | .newline => more
    | _ =>
      match b.openInside? l (.document start content ending) rest with
      | some b => some b
      | none => some (b.emit .broken)

/-- A plain or quoted scalar, which turns out to be a key if a colon follows. -/
def takeWord? (b : Builder) (l word : Lexeme) (ending : Option (List Lexeme))
    (rest : List Frame) : Option Builder :=
  if l.kind = .value then
    let (rest, start) := match rest with
      | parent :: rest =>
        let (parent, start) := parent.takeKeyStart
        (parent :: rest, start)
      | [] => ([], [])
    let item : Item Phrase :=
      { start, key := some (.word word none), sep := some (ending.getD [] ++ [l]) }
    some { b with
      stack := .mapping word.offset word.indent item [] :: rest
      onKeyLine := true }
  else b.takeEnding? l (.word word (some (ending.getD [] ++ [l]))) rest

/-- A block scalar. -/
def takeBlock? (b : Builder) (l : Lexeme) (header : List Lexeme) (rest : List Frame) :
    Option Builder :=
  match l.kind with
  | .space | .comment | .newline => some { b with stack := .block (header ++ [l]) [] :: rest }
  | .scalar =>
    some { b with stack := .block header l.text :: rest, atLineStart := true, indent := 0 }.pop
  | _ => none

/-- A comment of an empty item that is indented like the item before it: its lexemes belong behind
that item. -/
def joinComment? (b : Builder) (l : Lexeme) (indent : Nat) (start : List Lexeme)
    (before : List (Item Phrase)) : Option (Item Phrase × List (Item Phrase)) :=
  if l.kind = .comment && indent < b.indent
      && start.all (fun l => l.kind = .newline || l.kind = .space) then
    match before with
    | previous :: others =>
      match previous.value with
      | some value =>
        if value.ending?.isSome then
          some ({ previous with value := some (value.extend (start ++ [l])) }, others)
        else none
      | none => none
    | [] => none
  else none

/-- A line break, a blank or a comment in a block collection: the latest item and those before it,
once it is taken in. -/
def takeTrivia (b : Builder) (l : Lexeme) (indent : Nat) (last : Item Phrase)
    (before : List (Item Phrase)) : Item Phrase × List (Item Phrase) :=
  match last.value with
  | some value =>
    let commented := (value.ending?.bind List.getLast?).any (·.kind = .comment)
    if l.kind = .newline && commented then
      ({ last with value := some (value.extend [l]) }, before)
    else ({ start := [l] }, last :: before)
  | none =>
    match last.sep with
    | some sep => ({ last with sep := some (sep ++ [l]) }, before)
    | none =>
      match b.joinComment? l indent last.start before with
      | some joined => joined
      | none => ({ last with start := last.start ++ [l] }, before)

/-- Splits the lexemes before a missing value where the next item starts: behind the line of the
key and the line break after it, unless an indented comment follows. -/
def splitMissingValue (indent : Nat) (sep : List Lexeme) : List Lexeme × List Lexeme :=
  let step (breaks : List Nat) (entry : Lexeme × Nat) : List Nat :=
    match entry.1.kind with
    | .newline => breaks ++ [entry.2]
    | .space => breaks
    | .comment => if indent < entry.1.indent then [] else breaks
    | _ => []
  match sep.zipIdx.foldl step [] with
  | _ :: second :: _ => (sep.take second, sep.drop second)
  | _ => (sep, [])

/-- The colon behind an explicit key.  `start` holds the lexemes that were taken off `last`. -/
def takeExplicitValue (b : Builder) (l : Lexeme) (start : List Lexeme)
    (offset indent : Nat) (last : Item Phrase) (before : List (Item Phrase)) :
    List Frame :=
  let inner (item : Item Phrase) : Frame := .mapping b.offset b.indent item []
  match last.sep with
  | none =>
    if Lexeme.includes .newline last.start then
      [.mapping offset indent { last with sep := some [l] } before]
    else
      let (kept, own) := splitKeyStart last.start
      [inner { start := own, sep := some [l] },
        .mapping offset indent { last with start := kept } before]
  | some sep =>
    if last.value.isSome then [.mapping offset indent { sep := some [l] } (last :: before)]
    else if Lexeme.includes .value sep then
      [inner { start, sep := some [l] }, .mapping offset indent last before]
    else if last.key.any Phrase.isFlow && !Lexeme.includes .newline sep then
      let (kept, own) := splitKeyStart last.start
      [inner { start := own, key := last.key, sep := some (sep ++ [l]) },
        .mapping offset indent { last with start := kept, key := none, sep := none } before]
    else [.mapping offset indent { last with sep := some (sep ++ start ++ [l]) } before]

/-- The colon in a mapping whose latest key is not explicit. -/
def takeImplicitValue (b : Builder) (l : Lexeme) (start : List Lexeme) (atNextItem : Bool)
    (offset indent : Nat) (last : Item Phrase) (before : List (Item Phrase)) :
    List Frame :=
  match last.sep with
  | none => [.mapping offset indent { last with sep := some [l] } before]
  | some sep =>
    if last.value.isSome || atNextItem then
      [.mapping offset indent { start, sep := some [l] } (last :: before)]
    else if Lexeme.includes .value sep then
      [.mapping b.offset b.indent { sep := some [l] } [], .mapping offset indent last before]
    else [.mapping offset indent { last with sep := some (sep ++ [l]) } before]

/-- A mapping in block style. -/
def takeMapping? (b : Builder) (l : Lexeme) (offset indent : Nat) (last : Item Phrase)
    (before : List (Item Phrase)) (rest : List Frame) : Option Builder :=
  if l.kind.isTrivia then
    let (last, before) := b.takeTrivia l indent last before
    some { b with
      stack := .mapping offset indent last before :: rest
      onKeyLine := b.onKeyLine && l.kind ≠ .newline }
  else if b.indent < indent then none
  else
    let atColumn := !b.onKeyLine && b.indent = indent
    let atNextItem := atColumn && (last.sep.isSome || last.isExplicit) && l.kind ≠ .entry
    let (last, start) := match last.sep, last.value with
      | some sep, none =>
        if atNextItem then
          let (kept, start) := splitMissingValue indent sep
          ({ last with sep := some kept }, start)
        else (last, [])
      | _, _ => (last, [])
    let fresh := atNextItem || last.value.isSome
    let grown (last : Item Phrase) : List Frame := [.mapping offset indent last before]
    let added (item : Item Phrase) : List Frame := [.mapping offset indent item (last :: before)]
    let onKey (frames : List Frame) : Option Builder :=
      some { b with stack := frames ++ rest, onKeyLine := true }
    match l.kind with
    | .anchor | .tag =>
      if fresh then onKey (added { start := start ++ [l] })
      else match last.sep with
        | some sep => some { b with stack := grown { last with sep := some (sep ++ [l]) } ++ rest }
        | none => some { b with stack := grown { last with start := last.start ++ [l] } ++ rest }
    | .explicitKey =>
      if last.sep.isNone && !last.isExplicit then
        onKey (grown { last with start := last.start ++ [l], isExplicit := true })
      else if fresh then onKey (added { start := start ++ [l], isExplicit := true })
      else onKey (.mapping b.offset b.indent { start := [l], isExplicit := true } [] :: grown last)
    | .value =>
      if last.isExplicit then onKey (b.takeExplicitValue l start offset indent last before)
      else onKey (b.takeImplicitValue l start atNextItem offset indent last before)
    | .reference | .scalar | .singleQuoted | .doubleQuoted =>
      let word : Phrase := .word l none
      if fresh then onKey (added { start, key := some word, sep := some [] })
      else if last.sep.isSome then some { b with stack := .word l none :: grown last ++ rest }
      else onKey (grown { last with key := some word, sep := some [] })
    | .entry =>
      if !last.isExplicit && last.sep.any (!Lexeme.includes .newline ·) then
        some (b.place (.broken l) (grown last ++ rest))
      else b.openInside? l (.mapping offset indent last before) rest
    | _ =>
      let parent : Frame :=
        if atColumn then .mapping offset indent { start } (last :: before)
        else .mapping offset indent last before
      b.openInside? l parent rest

/-- A sequence in block style. -/
def takeSequence? (b : Builder) (l : Lexeme) (offset indent : Nat) (last : Item Phrase)
    (before : List (Item Phrase)) (rest : List Frame) : Option Builder :=
  let grown := some { b with
    stack := .sequence offset indent { last with start := last.start ++ [l] } before :: rest }
  let added := some { b with
    stack := .sequence offset indent { start := [l] } (last :: before) :: rest }
  let inner? :=
    if indent < b.indent then b.openInside? l (.sequence offset indent last before) rest else none
  if l.kind.isTrivia then
    let (last, before) := b.takeTrivia l indent last before
    some { b with stack := .sequence offset indent last before :: rest }
  else match l.kind with
    | .anchor | .tag => if last.value.isSome || b.indent ≤ indent then inner? else grown
    | .entry =>
      if b.indent ≠ indent then inner?
      else if last.value.isSome || Lexeme.includes .entry last.start then added
      else grown
    | _ => inner?

/-- A flow collection before its last bracket: the items, the latest first, once a lexeme is taken
in that is neither a scalar nor a bracket. -/
def takeFlowItem (l : Lexeme) (items : List (Item Phrase)) : List (Item Phrase) :=
  let fresh : Item Phrase :=
    if l.kind = .value then { sep := some [l] } else { start := [l] }
  match items with
  | [] => [fresh]
  | last :: before =>
    let added := fresh :: last :: before
    let toStart := { last with start := last.start ++ [l] } :: before
    match l.kind with
    | .comma => added
    | .explicitKey => if last.sep.isSome then added else toStart
    | _ =>
      if last.value.isSome then added
      else match last.sep with
        | some sep => { last with sep := some (sep ++ [l]) } :: before
        | none =>
          if l.kind = .value then { last with sep := some [l] } :: before else toStart

/-- A flow collection before its last bracket. -/
def takeOpenFlow? (b : Builder) (l opening : Lexeme) (items : List (Item Phrase))
    (rest : List Frame) : Option Builder :=
  match l.kind with
  | .comma | .explicitKey | .value | .space | .comment | .newline | .anchor | .tag =>
    some { b with stack := .flow opening (takeFlowItem l items) [] :: rest }
  | .reference | .scalar | .singleQuoted | .doubleQuoted =>
    match items with
    | last :: _ =>
      if last.sep.isSome && last.value.isNone then some (b.push (.word l none))
      else some (b.place (.word l none) (.flow opening items [] :: rest))
    | [] => some (b.place (.word l none) (.flow opening items [] :: rest))
  | .closeMapping | .closeSequence =>
    some { b with stack := .flow opening items [l] :: rest }
  | _ => b.openInside? l (.flow opening items []) rest

/-- A flow collection behind its last bracket, which turns out to be a key if a colon follows. -/
def takeClosedFlow? (b : Builder) (l opening : Lexeme) (items : List (Item Phrase))
    (closing : List Lexeme) (rest : List Frame) : Option Builder :=
  let extended : Frame := .flow opening items (closing ++ [l])
  let asKey (parent : Frame) (others : List Frame) : Option Builder :=
    let (parent, start) := parent.takeKeyStart
    let key : Phrase :=
      .flow opening opening.indent (settleItems opening items.reverse) (closing.take 1)
    let item : Item Phrase := { start, key := some key, sep := some (closing.drop 1 ++ [l]) }
    some { b with
      stack := .mapping opening.offset opening.indent item [] :: parent :: others
      onKeyLine := true }
  match rest with
  | .mapping offset indent last before :: others =>
    if l.kind = .value && indent = opening.indent || l.kind = .newline && last.sep.isNone then none
    else if l.kind = .value then asKey (.mapping offset indent last before) others
    else b.takeEnding? l extended rest
  | .flow .. :: _ | [] => b.takeEnding? l extended rest
  | parent :: others =>
    if l.kind = .value then asKey parent others else b.takeEnding? l extended rest

/-- Offers a lexeme to the innermost frame. -/
def take? (b : Builder) (l : Lexeme) (rest : List Frame) : Frame → Option Builder
  | .document start content ending => b.takeDocument? l start content ending rest
  | .documentEnd ending =>
    if l.kind = .implicitDocument then some b
    else
      let b := { b with stack := .documentEnd (ending ++ [l]) :: rest }
      some (if l.kind = .newline then b.pop else b)
  | .word word ending => b.takeWord? l word ending rest
  | .block header _ => b.takeBlock? l header rest
  | .mapping offset indent last before => b.takeMapping? l offset indent last before rest
  | .sequence offset indent last before => b.takeSequence? l offset indent last before rest
  | .flow opening items closing =>
    if l.kind = .flowBroken then some (popFlows b.stack.length b)
    else if closing.isEmpty then b.takeOpenFlow? l opening items rest
    else b.takeClosedFlow? l opening items closing rest

/-- A lexeme between documents. -/
def takeBetween (b : Builder) (l : Lexeme) : Builder :=
  match l.kind with
  | .directive => b.emit (.directive l.text)
  | .byteOrderMark | .space | .comment | .newline => b
  | .implicitDocument => b.push (.document [] none [])
  | .documentStart => b.push (.document [l] none [])
  | _ => b.emit .broken

/-- Takes in a lexeme, where frames that are complete without it are closed. -/
def takeFrom (l : Lexeme) : Nat → Builder → Builder
  | 0, b => b.emit .broken
  | fuel + 1, b =>
    match b.stack with
    | [] => b.takeBetween l
    | frame :: rest =>
      match b.take? l rest frame with
      | some b => b
      | none => takeFrom l fuel b.pop

/-- Takes in a lexeme.  The marker at the end of a document closes everything. -/
def takeIn (b : Builder) (l : Lexeme) : Builder :=
  let behindMarker := match b.stack with
    | .documentEnd _ :: _ => true
    | _ => false
  if l.kind = .documentEnd && !behindMarker then
    (popAll (b.stack.length + 1) b).push (.documentEnd [])
  else takeFrom l (b.stack.length + 2) b

/-- Takes in a piece, and keeps track of the indentation. -/
def add (b : Builder) (p : Piece) : Builder :=
  let l : Lexeme := { p with offset := b.offset, indent := b.indent }
  let stop := l.stop
  match p.kind with
  | .unknown =>
    let b := b.place (.broken l) b.stack
    { b with offset := stop }
  | .scalar =>
    let b := { b with atLineStart := false }.takeIn l
    { b with offset := stop }
  | .newline =>
    let b := b.takeIn l
    { b with atLineStart := true, indent := 0, offset := stop }
  | .space =>
    let b := b.takeIn l
    if b.atLineStart && p.text.head? = some ' ' then
      { b with indent := b.indent + l.width, offset := stop }
    else { b with offset := stop }
  | .explicitKey | .value | .entry =>
    let b := b.takeIn l
    if b.atLineStart then { b with indent := b.indent + 1, offset := stop }
    else { b with offset := stop }
  | .implicitDocument | .flowBroken => b.takeIn l
  | _ =>
    let b := b.takeIn l
    { b with atLineStart := false, offset := stop }

end Builder

/-- The parts of a text. -/
def parts (text : List Char) : List Part :=
  let b := (pieces text).foldl Builder.add {}
  (Builder.popAll (b.stack.length + 1) b).parts.reverse

end LiteralLexer.Yaml
