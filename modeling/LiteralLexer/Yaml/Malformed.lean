/-!
# Malformed documents

What can be wrong with a document, whether it shows in the characters, in the layout, in the
structure or only when references are followed.
-/

namespace LiteralLexer.Yaml

/-- What is wrong with a document. -/
inductive Malformed where
  | unexpected (what : String)
  | unclosed
  | badIndentation
  | tabIndentation
  | missingBlank
  | missingBreak
  | missingIndicator (indicator : Char)
  | badStart (c : Char)
  | badEscape
  | badBlockHeader
  | blockInFlow
  | multilineKey
  | longKey
  | missingValue
  | nestedCompactMapping
  | duplicateKey
  | repeatedProperty
  | misplacedProperty
  | emptyName
  | badName (name : String)
  | unknownAnchor (name : String)
  | excessiveReferences
  | badTag (tag : String)
  | badContent (tag : String)
  | badMergeSource
  | badDirective
  | severalDocuments
  | tooDeep
  deriving DecidableEq, Repr

/-- What is said about a malformed document. -/
def Malformed.message : Malformed → String
  | .unexpected what => "unexpected " ++ what
  | .unclosed => "unexpected end of a quoted text or a collection"
  | .badIndentation => "bad indentation"
  | .tabIndentation => "tabs are not allowed as indentation"
  | .missingBlank => "a blank is missing"
  | .missingBreak => "a line break is missing"
  | .missingIndicator indicator => "missing " ++ String.ofList [indicator]
  | .badStart c => "a plain text cannot start with " ++ String.ofList [c]
  | .badEscape => "invalid escape sequence"
  | .badBlockHeader => "invalid block scalar header"
  | .blockInFlow => "block collections are not allowed within flow collections"
  | .multilineKey => "implicit keys need to be on a single line"
  | .longKey => "implicit keys have at most 1024 characters"
  | .missingValue => "implicit keys need to be followed by values"
  | .nestedCompactMapping => "nested mappings are not allowed in compact mappings"
  | .duplicateKey => "keys must be unique"
  | .repeatedProperty => "a node has at most one anchor and one tag"
  | .misplacedProperty => "misplaced anchor or tag"
  | .emptyName => "anchors and aliases need a name"
  | .badName name => "invalid anchor name " ++ name
  | .unknownAnchor name => "unresolved alias " ++ name
  | .excessiveReferences => "too many references"
  | .badTag tag => "invalid tag " ++ tag
  | .badContent tag => "content does not fit the tag " ++ tag
  | .badMergeSource => "only mappings can be merged"
  | .badDirective => "invalid directive"
  | .severalDocuments => "there is more than one document"
  | .tooDeep => "the document is nested too deeply"

end LiteralLexer.Yaml
