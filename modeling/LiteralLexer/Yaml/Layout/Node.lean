import LiteralLexer.Yaml.Layout.Comment
import LiteralLexer.Yaml.Layout.Scalar
import LiteralLexer.Yaml.Node.Compose

/-!
# Collections as they are written

A collection that stands as a key is written in flow style, with the anchors, tags and comments of
what it holds.  It takes one line if it fits into it and nothing in it asks for a line of its own,
and else one line for every item.
-/

namespace LiteralLexer.Yaml

/-- The units by which what a collection holds is indented. -/
def indentStep : Nat := 2

/-- Blanks. -/
def blanks (n : Nat) : List Char := List.replicate n ' '

/-! ## The lines of a collection -/

/-- The items of a collection as they are written. -/
structure FlowLines where
  /-- The lines, the latest first. -/
  lines : List (List Char) := []
  /-- The collection has to take several lines. -/
  isTall : Bool := false

namespace FlowLines

/-- Adds an item with what stands before it and the comment behind it. -/
def add (f : FlowLines) (indent itemIndent : Nat) (isLast : Bool) (before : Notes)
    (comment text : List Char) : FlowLines :=
  let space := if before.spaceBefore then [[]] else []
  let above :=
    if before.commentBefore.isEmpty then []
    else [Text.trimStart (indentComment indent (commentSigns true before.commentBefore))]
  let separated := text ++ if isLast then [] else [',']
  let line :=
    separated ++ if comment.isEmpty then [] else lineComment separated itemIndent comment
  { lines := line :: above ++ space ++ f.lines
    isTall := f.isTall || !comment.isEmpty || before.spaceBefore || !above.isEmpty
      || text.contains '\n' }

/-- Adds an item that is a node. -/
def addNode (f : FlowLines) (indent itemIndent : Nat) (isLast : Bool) (notes : Notes)
    (text : List Char) : FlowLines :=
  f.add indent itemIndent isLast notes notes.comment text

/-- Adds an item that is a pair. -/
def addPair (f : FlowLines) (indent itemIndent : Nat) (isLast : Bool) (key : Notes)
    (value : Option Notes) (text : List Char) : FlowLines :=
  let isTall := f.isTall || !key.comment.isEmpty || value.any (!·.commentBefore.isEmpty)
  let comment := match value with
    | some notes => notes.comment
    | none => key.comment
  { f with isTall }.add indent itemIndent isLast key comment text

/-- The collection between its brackets. -/
def enclose (f : FlowLines) (indent : Nat) (opening closing : Char) : List Char :=
  let lines := f.lines.reverse
  let width := lines.foldl (fun n line => n + Text.unitCount line + 2) 2
  if lines.isEmpty then [opening, closing]
  else if f.isTall || lineWidth < width then
    let shown := lines.flatMap fun line =>
      '\n' :: if line.isEmpty then [] else blanks (indent + indentStep) ++ line
    opening :: shown ++ '\n' :: blanks indent ++ [closing]
  else opening :: ' ' :: List.intercalate [' '] lines ++ [' ', closing]

end FlowLines

/-! ## Pairs -/

/-- Whether a key is written behind a question mark. -/
def Node.isExplicitKey : Node → Bool
  | .scalar _ style _ _ => style.isBlock
  | _ => true

/-- A key without a value. -/
def loneKey (isExplicit : Bool) (text : List Char) : List Char :=
  if text.isEmpty then ['?'] else if isExplicit then '?' :: ' ' :: text else text

/-- A key and the colon behind it. -/
def keyAndColon (isExplicit : Bool) (indent : Nat) (comment text : List Char) : List Char :=
  let behind (text : List Char) : List Char :=
    text ++ if comment.isEmpty then [] else lineComment text (indent + indentStep) comment
  if isExplicit then '?' :: ' ' :: behind text ++ '\n' :: blanks indent ++ [':']
  else behind (text ++ [':'])

/-- Whether the properties of a collection stand in a line of their own. -/
def hasPropertiesLine (text : List Char) : Bool :=
  let first := text.takeWhile (· ≠ '\n')
  match first with
  | '&' :: _ =>
    match first.dropWhile (· ≠ ' ') with
    | ' ' :: '!' :: rest => !rest.contains ' '
    | rest => rest.isEmpty
  | '!' :: _ => !first.contains ' '
  | _ => false

/-- What stands between a colon and a value. -/
def valueGap (isExplicit : Bool) (indent : Nat) (keyComment : List Char) (value : Node)
    (text : List Char) : List Char :=
  let notes := value.notes
  let newLine := '\n' :: blanks indent
  if !keyComment.isEmpty || notes.spaceBefore || !notes.commentBefore.isEmpty then
    (if notes.spaceBefore then ['\n'] else [])
      ++ (if notes.commentBefore.isEmpty then []
          else '\n' :: indentComment indent (commentSigns true notes.commentBefore))
      ++ newLine
  else if !isExplicit && value.isCollection then
    if text.contains '\n' && !hasPropertiesLine text then newLine else [' ']
  else if text.isEmpty || text.head? = some '\n' then []
  else [' ']

/-! ## Nodes -/

/-- What is known while a node is written. -/
structure Pen where
  /-- The names of the anchors that were written already. -/
  anchors : List String
  /-- How far the line is filled by what stands before a node. -/
  atStart : Option Nat := none

/-- A character that the name of an anchor cannot hold. -/
def isBadNameChar (c : Char) : Bool :=
  c.toNat < 0x1A || Text.isWhite c || isFlowIndicator c

/-- Checks the name of an anchor. -/
def checkName (name : String) : Except Malformed Unit :=
  if name.toList.any isBadNameChar then .error (.badName name) else .ok ()

/-- A reference.  It must not come before its anchor. -/
def Pen.reference (pen : Pen) (name : String) : Except Malformed (List Char) := do
  checkName name
  if name ∉ pen.anchors then throw (.unknownAnchor name)
  return '*' :: name.toList

/-- The properties of a node. -/
def Pen.properties (pen : Pen) (setting : Setting) (notes : Notes) :
    Except Malformed (List Char × Pen) := do
  let anchor ← match notes.anchor with
    | some anchor => do
      checkName anchor.name
      pure [anchor.name]
    | none => pure []
  let tag := notes.tag.toList.map setting.handles.short
  let text := List.intercalate [' '] (anchor.map (fun name => '&' :: name.toList) ++ tag)
  let atStart :=
    if text.isEmpty then pen.atStart else some (pen.atStart.getD 0 + Text.unitCount text + 1)
  return (text, { anchors := anchor ++ pen.anchors, atStart })

/-- A node behind its properties. -/
def behindProperties (properties : List Char) (indent : Nat) (isScalar : Bool) (text : List Char) :
    List Char :=
  if properties.isEmpty then text
  else if isScalar || text.head? = some '\x7b' || text.head? = some '[' then
    properties ++ ' ' :: text
  else properties ++ '\n' :: blanks indent ++ text

/-- Whether a mapping is written as a list of keys. -/
def isKeysOnly (isSet : Bool) (entries : List (Node × Option Node)) : Bool :=
  isSet || entries.all fun (_, value) => value.isNone

mutual

/-- Writes a node.  The pen that is returned knows the properties of the node itself, but not how far
the line was filled inside it. -/
def writeNode (setting : Setting) (indent : Nat) (isKey : Bool) (pen : Pen) :
    Node → Except Malformed (List Char × Pen)
  | .reference _ name _ => do return (← pen.reference name, pen)
  | .scalar notes style source atom => do
    let (properties, pen) ← pen.properties setting notes
    let place : TextPlace := { schema := setting.schema, indent, atStart := pen.atStart, isKey }
    let text ← scalarText place notes.tag style source atom
    return (behindProperties properties indent true text, pen)
  | .sequence notes items => do
    let (properties, pen) ← pen.properties setting notes
    match misfitCollection? setting.schema notes.tag with
    | some text => return (behindProperties properties indent false text, pen)
    | none =>
      let (lines, anchors) ← writeItems setting indent {} pen items
      return (behindProperties properties indent false (lines.enclose indent '[' ']'),
        { pen with anchors })
  | .mapping notes isSet entries => do
    let (properties, pen) ← pen.properties setting notes
    match misfitCollection? setting.schema notes.tag with
    | some text => return (behindProperties properties indent false text, pen)
    | none =>
      let (lines, anchors) ← writeEntries setting indent (indent + indentStep)
        (isKeysOnly isSet entries) {} pen entries
      return (behindProperties properties indent false (lines.enclose indent '\x7b' '\x7d'),
        { pen with anchors })
  | .pairs notes _ entries => do
    let (properties, pen) ← pen.properties setting notes
    let (lines, anchors) ←
      writeEntries setting indent (indent + 2 * indentStep) false {} pen entries
    return (behindProperties properties indent false (lines.enclose indent '[' ']'),
      { pen with anchors })

/-- Writes the items of a sequence. -/
def writeItems (setting : Setting) (indent : Nat) (f : FlowLines) (pen : Pen) :
    List Node → Except Malformed (FlowLines × List String)
  | [] => .ok (f, pen.anchors)
  | item :: items => do
    let itemIndent := indent + 2 * indentStep
    let (text, pen) ← writeNode setting itemIndent false pen item
    writeItems setting indent (f.addNode indent itemIndent items.isEmpty item.notes text) pen items

/-- Writes the pairs of a collection. -/
def writeEntries (setting : Setting) (indent itemIndent : Nat) (keysOnly : Bool) (f : FlowLines)
    (pen : Pen) : List (Node × Option Node) → Except Malformed (FlowLines × List String)
  | [] => .ok (f, pen.anchors)
  | (key, value) :: entries => do
    let inner := itemIndent + indentStep
    let isExplicit := key.isExplicitKey
    let (keyText, keyPen) ← writeNode setting inner (!isExplicit && !keysOnly) pen key
    let (text, anchors) ← match value with
      | none => pure (loneKey isExplicit keyText, keyPen.anchors)
      | some node =>
        if keysOnly then pure (loneKey isExplicit keyText, keyPen.anchors)
        else do
          let comment := key.notes.comment
          let head := keyAndColon isExplicit itemIndent comment keyText
          let atStart :=
            if !isExplicit && comment.isEmpty && node.isScalar then some (Text.unitCount head + 1)
            else keyPen.atStart
          let (valueText, valuePen) ← writeNode setting inner false { keyPen with atStart } node
          pure (head ++ valueGap isExplicit inner comment node valueText ++ valueText,
            valuePen.anchors)
    let f := f.addPair indent itemIndent entries.isEmpty key.notes (value.map Node.notes) text
    writeEntries setting indent itemIndent keysOnly f { pen with anchors } entries

end

/-- The text of a node as a key.  What is written around the node itself does not count. -/
def keyLayout (setting : Setting) (anchors : List String) (node : Node) :
    Except Malformed (List Char) := do
  let (text, _) ← writeNode setting 0 false { anchors } (node.annotate fun _ => {})
  return text

end LiteralLexer.Yaml
