import LiteralLexer.Config.Basic
import LiteralLexer.Yaml.Document

/-!
# The parser of configuration documents

What a program that reads its configuration from YAML uses as the parser of documents.
-/

namespace LiteralLexer.Yaml

/-- Reads a YAML document. -/
def parse : DocumentParser := fun text =>
  match Document.ofText text with
  | .ok document =>
    .ok
      { value := document.value
        itemFault? := fun key index => (document.itemCircle? key index).map Circle.message }
  | .error e => .error e.message

end LiteralLexer.Yaml
