import LiteralLexer.Yaml.Node.Basic
import LiteralLexer.Yaml.Node.Lead
import LiteralLexer.Yaml.Node.Tag
import LiteralLexer.Yaml.Scalar.Block

/-!
# Reading phrases as nodes

`Node.ofPhrase` gives a phrase its meaning, or finds what is wrong with it: a lexeme where it has no
business, a key that runs over several lines or comes twice, a value without a key, or an
indentation that fits nothing.
-/

namespace LiteralLexer.Yaml

/-- What the nodes of a document are read with. -/
structure Setting where
  schema : Schema := .core
  handles : TagHandles := .standard

/-! ## Scalars -/

namespace Setting

/-- The full name of a tag, if there is one. -/
def tagName? (setting : Setting) (tag : Option Lexeme) : Except Malformed (Option String) :=
  match tag with
  | none => .ok none
  | some l => do
    let name ← setting.handles.fullName l.text
    return if name = "" then none else some name

/-- The name of an anchor, if there is one. -/
def anchor? (lead : Lead) : Except Malformed (Option Anchor) :=
  match lead.anchor with
  | none => .ok none
  | some l => if l.text.length ≤ 1 then .error .emptyName else
    .ok (some { name := String.ofList (l.text.drop 1) })

/-- What a scalar of a style stands for. -/
def atom (setting : Setting) (atKey : Bool) (style : ScalarStyle) (tag : Option String)
    (text : String) : Except Malformed Atom :=
  match tag with
  | some "!" => .ok (.text text)
  | some tag => setting.schema.readTagged tag text
  | none => .ok (if style = .plain then setting.schema.readPlain atKey text else .text text)

/-- The scalar of a text. -/
def scalar (setting : Setting) (atKey : Bool) (lead : Lead) (style : ScalarStyle)
    (text comment : List Char) : Except Malformed Node := do
  let tag ← setting.tagName? lead.tag
  let source := String.ofList text
  let atom ← setting.atom atKey style tag source
  let notes : Notes :=
    { anchor := ← anchor? lead, tag, spaceBefore := lead.spaceBefore,
      commentBefore := lead.comment, comment }
  return .scalar notes style source atom

/-- The node where nothing is written behind a lead, and where it ends. -/
def empty (setting : Setting) (lead : Lead) (place : Nat) : Except Malformed (Node × Nat) := do
  let node ← setting.scalar false { lead with comment := [] } .plain [] lead.comment
  return (node, if lead.comment.isEmpty then place else lead.stop)

/-- A plain or quoted scalar, or a reference. -/
def word (setting : Setting) (atKey : Bool) (lead : Lead) (l : Lexeme) (ending : List Lexeme) :
    Except Malformed (Node × Nat) := do
  let comment ← endComment true ending
  let stop := l.stop + widthOf ending
  match l.kind with
  | .reference =>
    if l.text.length ≤ 1 then throw .emptyName
    if lead.anchor.isSome || lead.tag.isSome then throw .misplacedProperty
    let notes : Notes :=
      { spaceBefore := lead.spaceBefore, commentBefore := lead.comment, comment }
    return (.reference notes (String.ofList (l.text.drop 1)) none, stop)
  | .singleQuoted =>
    return (← setting.scalar atKey lead .singleQuoted (← singleQuotedText l.text) comment, stop)
  | .doubleQuoted =>
    return (← setting.scalar atKey lead .doubleQuoted (← doubleQuotedText l.text) comment, stop)
  | _ => return (← setting.scalar atKey lead .plain (← plainText l.text) comment, stop)

/-- A block scalar. -/
def block (setting : Setting) (atKey atRoot : Bool) (lead : Lead) (header : List Lexeme)
    (indent : Nat) (body : List Char) : Except Malformed (Node × Nat) := do
  let h ← BlockHeader.ofLexemes header
  let text ← blockText h indent atRoot body
  let offset := (header.head?.map (·.offset)).getD 0
  return (← setting.scalar atKey lead (if h.isFolded then .folded else .literal) text h.comment,
    offset + widthOf header + Text.unitCount body)

end Setting

/-! ## Collections -/

/-- A collection that is being read.  What was read last comes first. -/
structure Collected where
  items : List Node := []
  entries : List (Node × Option Node) := []
  comment : List Char := []
  /-- Where the last item ends. -/
  offset : Nat
  /-- Where the last item without content ends. -/
  emptyStop : Option Nat := none

namespace Collected

/-- Where the collection ends. -/
def stop (c : Collected) : Nat := c.emptyStop.getD c.offset

/-- Whether a key was read already. -/
def hasKey (c : Collected) (key : Node) : Bool := c.entries.any fun (k, _) => k.sameKey key

/-- Adds a comment behind the last item. -/
def commentLast (c : Collected) (comment : List Char) : Collected :=
  let add (node : Node) : Node :=
    node.annotate fun notes => { notes with comment := joinComments notes.comment comment }
  { c with
    items := match c.items with
      | node :: nodes => add node :: nodes
      | [] => []
    entries := match c.entries with
      | (key, some value) :: entries => (key, some (add value)) :: entries
      | (key, none) :: entries => (add key, none) :: entries
      | [] => [] }

end Collected

/-- The pair that an item of a list of pairs is. -/
def pairOf : Node → Node × Option Node
  | .mapping notes _ entries =>
    let (key, value) := match entries with
      | entry :: _ => entry
      | [] => (.scalar {} .plain "null" .null, none)
    let key := key.annotate fun n =>
      { n with commentBefore := joinComments notes.commentBefore n.commentBefore }
    let behind (node : Node) : Node := node.annotate fun n =>
      { n with comment := joinComments notes.comment n.comment }
    match value with
    | some value => (key, some (behind value))
    | none => (behind key, none)
  | node => (node, none)

/-- Whether a node holds more than one pair. -/
def hasSeveralPairs : Node → Bool
  | .mapping _ _ (_ :: _ :: _) => true
  | _ => false

/-- Whether two scalars in a list of keys are the same. -/
def repeatsKey : List Node → Bool
  | [] => false
  | .scalar _ _ _ a :: keys =>
    keys.any (fun
      | .scalar _ _ _ b => a.identical b
      | _ => false) || repeatsKey keys
  | _ :: keys => repeatsKey keys

/-- A sequence with a tag. -/
def sequenceOf (notes : Notes) (items : List Node) : Except Malformed Node :=
  let sequenceTag := standardTag "seq"
  let isOrdered := notes.tag = some (standardTag "omap")
  if isOrdered || notes.tag = some (standardTag "pairs") then
    let entries := items.map pairOf
    if items.any hasSeveralPairs || isOrdered && repeatsKey (entries.map (·.1)) then
      .error (.badContent (notes.tag.getD ""))
    else .ok (.pairs notes isOrdered entries)
  else if notes.tag = some "!" then .ok (.sequence { notes with tag := some sequenceTag } items)
  else .ok (.sequence notes items)

/-- A mapping with a tag. -/
def mappingOf (notes : Notes) (entries : List (Node × Option Node)) : Except Malformed Node :=
  let mappingTag := standardTag "map"
  if notes.tag = some (standardTag "set") then
    if entries.all fun (_, value) => Node.isEmptyValue value then .ok (.mapping notes true entries)
    else .error (.badContent (notes.tag.getD ""))
  else if notes.tag = some "!" then
    .ok (.mapping { notes with tag := some mappingTag } false entries)
  else .ok (.mapping notes false entries)

/-- What is written around a collection. -/
def Setting.collectionNotes (setting : Setting) (lead : Lead) (comment : List Char) :
    Except Malformed Notes := do
  return { anchor := ← anchor? lead, tag := ← setting.tagName? lead.tag,
           spaceBefore := lead.spaceBefore, commentBefore := lead.comment, comment }

/-- Whether the properties before a block sequence are followed by a line break. -/
def setOffSequence (lead : Lead) : Bool :=
  let last := max ((lead.anchor.map (·.offset)).getD 0) ((lead.tag.map (·.offset)).getD 0)
  lead.anchor.isNone && lead.tag.isNone || lead.newlineAfter.any (last ≤ ·.offset)

/-- The comment at the front of a lead in a flow collection, which belongs to the item before. -/
def previousComment : List Lexeme → List Char
  | [] => []
  | l :: ls =>
    match l.kind with
    | .comma | .space => previousComment ls
    | .comment => l.text.drop 1
    | _ => []

mutual

/-- Whether a key runs over several lines. -/
def Phrase.isMultiline : Phrase → Bool
  | .word l ending => l.text.contains '\n' || Lexeme.includes .newline (ending.getD [])
  | .flow _ _ items _ => hasMultiline items
  | .block .. | .mapping .. | .sequence .. | .broken _ => true

/-- Whether one of the items of a flow collection runs over several lines. -/
def hasMultiline : List (Item Phrase) → Bool
  | [] => false
  | ⟨start, _, key, sep, value⟩ :: items =>
    let keyed := match key with
      | some p => p.isMultiline
      | none => false
    let valued := match value with
      | some p => p.isMultiline
      | none => false
    Lexeme.includes .newline start || Lexeme.includes .newline (sep.getD []) || keyed || valued
      || hasMultiline items

end

/-- Checks that an implicit key of a block mapping stands in the column of the mapping. -/
def checkKeyColumn (indent : Nat) (key : Option Phrase) : Except Malformed Unit :=
  match key with
  | some (.sequence ..) => .error (.unexpected "-")
  | some p => if p.indent?.any (· ≠ indent) then .error .badIndentation else .ok ()
  | none => .ok ()

/-- Checks the key of a block mapping. -/
def checkKey (indent : Nat) (lead : Lead) (key : Option Phrase) : Except Malformed Unit :=
  match lead.found with
  | some l => if l.indent = indent then .ok () else .error .badIndentation
  | none => do
    checkKeyColumn indent key
    if lead.newlineAfter.isSome || key.any Phrase.isMultiline then throw .multilineKey

/-- Whether the colon behind a key stands too far from its start. -/
def isLongKey (lead : Lead) (colon : Lexeme) : Bool := lead.start + 1024 < colon.offset

/-- Checks the value behind an implicit key of a block mapping. -/
def checkImplicitValue (lead valueLead : Lead) (value : Option Phrase) : Except Malformed Unit := do
  match value with
  | some (.mapping ..) => if !valueLead.hasNewline then throw .nestedCompactMapping
  | _ => pure ()
  if valueLead.found.any (isLongKey lead) then throw .longKey

/-- Checks the lead of an item of a flow collection. -/
def checkFlowLead (isFirst : Bool) (lead : Lead) : Except Malformed Unit :=
  if isFirst then if lead.comma then .error (.unexpected ",") else .ok ()
  else if lead.comma then .ok () else .error (.missingIndicator ',')

/-- Checks the colon of a pair that stands in a flow sequence without a question mark. -/
def checkSinglePair (lead valueLead : Lead) (sep : List Lexeme) : Except Malformed Unit :=
  match valueLead.found with
  | none => .ok ()
  | some colon =>
    if (sep.takeWhile (· ≠ colon)).any (·.kind = .newline) then .error .multilineKey
    else if isLongKey lead colon then .error .longKey
    else .ok ()

/-- The lead of an item of a flow collection without a comment that belongs to the item before, and
what was read with that comment. -/
def Collected.moveComment (c : Collected) (isFirst : Bool) (lead : Lead) (start : List Lexeme) :
    Collected × Lead :=
  let comment := if isFirst || lead.comment.isEmpty then [] else previousComment start
  if comment.isEmpty then (c, lead)
  else (c.commentLast comment, { lead with comment := lead.comment.drop (comment.length + 1) })

/-- Checks what stands behind the last bracket of a flow collection.  The result is the comment
there, and where the collection ends. -/
def flowEnding (isMapping : Bool) (closing : List Lexeme) : Except Malformed (List Char × Nat) :=
  match closing with
  | [] => .error .unclosed
  | bracket :: ending =>
    if bracket.kind = (if isMapping then .closeMapping else .closeSequence) then do
      return (← endComment true ending, bracket.stop + widthOf ending)
    else .error .unclosed

mutual

/-- The node that a phrase spells, and where it ends. -/
def Node.ofPhrase (setting : Setting) (atKey atRoot : Bool) (lead : Lead) :
    Phrase → Except Malformed (Node × Nat)
  | .word l ending => setting.word atKey lead l (ending.getD [])
  | .block header indent body => setting.block atKey atRoot lead header indent body
  | .mapping offset indent items => do
    let c ← Collected.mapping setting indent { offset } items
    if c.emptyStop.any fun stop => 0 < stop && stop < c.offset then throw .badIndentation
    let notes ← setting.collectionNotes lead c.comment
    return (← mappingOf notes c.entries.reverse, c.stop)
  | .sequence offset indent items => do
    if !setOffSequence lead then throw .missingBreak
    let c ← Collected.sequence setting indent { offset } items
    let notes ← setting.collectionNotes lead c.comment
    return (← sequenceOf notes c.items.reverse, c.stop)
  | .flow opening indent items closing => do
    let isMapping := opening.kind = .openMapping
    let c ← Collected.flow setting isMapping indent true { offset := opening.stop } items
    let (comment, stop) ← flowEnding isMapping closing
    let notes ← setting.collectionNotes lead (joinComments c.comment comment)
    if isMapping then return (← mappingOf notes c.entries.reverse, stop)
    else return (← sequenceOf notes c.items.reverse, stop)
  | .broken l => .error (.unexpected (String.ofList l.text))

/-- Reads the items of a block mapping.  A value without a colon before it is passed over if its key
is explicit. -/
def Collected.mapping (setting : Setting) (indent : Nat) (c : Collected) :
    List (Item Phrase) → Except Malformed Collected
  | [] => .ok c
  | ⟨start, _, key, sep, value⟩ :: items => do
    let lead ← Lead.ofLexemes
      { indicator := .explicitKey, next := .ofKey key sep, offset := c.offset, indent,
        onNewline := true } start
    let isImplicit := lead.found.isNone
    if isImplicit && lead.anchor.isNone && lead.tag.isNone && sep.isNone then
      checkKeyColumn indent key
      Collected.mapping setting indent
        { c with emptyStop := some lead.stop, comment := joinComments c.comment lead.comment } items
    else
      checkKey indent lead key
      let (keyNode, keyStop) ← match key with
        | some p => Node.ofPhrase setting true false lead p
        | none => setting.empty lead (emptyPlace lead.stop start)
      if c.hasKey keyNode then throw .duplicateKey
      let onNewline := match key with
        | none | some (.block ..) => true
        | _ => false
      let valueLead ← Lead.ofLexemes
        { indicator := .value, next := .ofValue value, offset := keyStop, indent, onNewline }
        (sep.getD [])
      if valueLead.found.isSome then
        if isImplicit then checkImplicitValue lead valueLead value
        let (valueNode, stop) ← match value with
          | some p => Node.ofPhrase setting false false valueLead p
          | none => setting.empty valueLead (emptyPlace valueLead.stop (sep.getD []))
        Collected.mapping setting indent
          { c with entries := (keyNode, some valueNode) :: c.entries, offset := stop } items
      else
        if isImplicit then throw .missingValue
        let keyNode := keyNode.annotate fun notes =>
          { notes with comment := joinComments notes.comment valueLead.comment }
        Collected.mapping setting indent
          { c with entries := (keyNode, none) :: c.entries, offset := valueLead.stop } items

/-- Reads the items of a block sequence. -/
def Collected.sequence (setting : Setting) (indent : Nat) (c : Collected) :
    List (Item Phrase) → Except Malformed Collected
  | [] => .ok c
  | ⟨start, _, _, _, value⟩ :: items => do
    let lead ← Lead.ofLexemes
      { indicator := .entry, next := .ofValue value, offset := c.offset, indent,
        onNewline := true } start
    if lead.found.isNone then
      if lead.anchor.isSome || lead.tag.isSome || value.isSome then throw (.missingIndicator '-')
      let comment := if lead.comment.isEmpty then c.comment else lead.comment
      Collected.sequence setting indent { c with emptyStop := some lead.stop, comment } items
    else
      let (node, stop) ← match value with
        | some p => Node.ofPhrase setting false false lead p
        | none => setting.empty lead (emptyPlace lead.stop start)
      Collected.sequence setting indent { c with items := node :: c.items, offset := stop } items

/-- Reads the items of a flow collection.  A pair in a sequence is a mapping of its own. -/
def Collected.flow (setting : Setting) (isMapping : Bool) (indent : Nat) (isFirst : Bool)
    (c : Collected) : List (Item Phrase) → Except Malformed Collected
  | [] => .ok c
  | ⟨start, _, key, sep, value⟩ :: items => do
    let lead ← Lead.ofLexemes
      { inFlow := true, indicator := .explicitKey, next := .ofKey key sep, offset := c.offset,
        indent, onNewline := false } start
    if lead.found.isNone && lead.anchor.isNone && lead.tag.isNone && sep.isNone && value.isNone then
      if isFirst && lead.comma || !items.isEmpty then throw (.unexpected ",")
      Collected.flow setting isMapping indent false
        { c with offset := lead.stop, comment := joinComments c.comment lead.comment } items
    else
      if !isMapping && lead.found.isNone && key.any Phrase.isMultiline then throw .multilineKey
      checkFlowLead isFirst lead
      let (c, lead) := c.moveComment isFirst lead start
      if !isMapping && sep.isNone && lead.found.isNone then
        let (node, stop) ← match value with
          | some p => Node.ofPhrase setting false false lead p
          | none => setting.empty lead lead.stop
        if value.any Phrase.isBlockCollection then throw .blockInFlow
        Collected.flow setting isMapping indent false
          { c with items := node :: c.items, offset := stop } items
      else
        let (keyNode, keyStop) ← match key with
          | some p => Node.ofPhrase setting true false lead p
          | none => setting.empty lead (emptyPlace lead.stop start)
        if key.any Phrase.isBlockCollection then throw .blockInFlow
        let valueLead ← Lead.ofLexemes
          { inFlow := true, indicator := .value, next := .ofValue value, offset := keyStop, indent,
            onNewline := false } (sep.getD [])
        if !isMapping && lead.found.isNone then checkSinglePair lead valueLead (sep.getD [])
        if valueLead.found.isNone && value.isSome then throw (.missingIndicator ',')
        let (valueNode, stop) ← match value with
          | some p => do
            let (node, stop) ← Node.ofPhrase setting false false valueLead p
            pure (some node, stop)
          | none =>
            if valueLead.found.isSome then do
              let (node, stop) ←
                setting.empty valueLead (emptyPlace valueLead.stop (sep.getD []))
              pure (some node, stop)
            else pure (none, valueLead.stop)
        if value.any Phrase.isBlockCollection then throw .blockInFlow
        let keyNode :=
          if valueNode.isSome then keyNode
          else keyNode.annotate fun notes =>
            { notes with comment := joinComments notes.comment valueLead.comment }
        if isMapping then
          if c.hasKey keyNode then throw .duplicateKey
          Collected.flow setting isMapping indent false
            { c with entries := (keyNode, valueNode) :: c.entries, offset := stop } items
        else
          Collected.flow setting isMapping indent false
            { c with items := .mapping {} false [(keyNode, valueNode)] :: c.items, offset := stop }
            items

end

end LiteralLexer.Yaml
