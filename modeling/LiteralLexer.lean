import LiteralLexer.FileSystem.Tree
import LiteralLexer.Main
import LiteralLexer.Proofs.Cluster
import LiteralLexer.Proofs.Reading
import LiteralLexer.Proofs.Scan.Basic
import LiteralLexer.Proofs.Scan.Refinement
import LiteralLexer.Proofs.Scan.Owner
import LiteralLexer.Proofs.Literal.Basic
import LiteralLexer.Proofs.Literal.Scan
import LiteralLexer.Proofs.Lexer.Step
import LiteralLexer.Proofs.Lexer.Run
import LiteralLexer.Proofs.Lexer.Progress
import LiteralLexer.Proofs.Lexer.Order
import LiteralLexer.Proofs.Lexer.Grammar
import LiteralLexer.Proofs.Lexer.Partition
import LiteralLexer.Proofs.Digits
import LiteralLexer.Proofs.Location
import LiteralLexer.Proofs.Segmentation
import LiteralLexer.Proofs.Literal.Separator
import LiteralLexer.Proofs.Lexer.Position
import LiteralLexer.Proofs.Literal.Lookahead
import LiteralLexer.Proofs.Lexer.Whole
import LiteralLexer.Proofs.Lexer.Sentinel
import LiteralLexer.Proofs.Lexer.Locality
import LiteralLexer.Proofs.Lexer.Lines
import LiteralLexer.Proofs.Lexer.Numeral
import LiteralLexer.Proofs.Lexer.RoundTrip
import LiteralLexer.Proofs.Report
import LiteralLexer.Proofs.Lexer.Fault
import LiteralLexer.Proofs.Lexer.History
import LiteralLexer.Proofs.Lexer.Recovery
import LiteralLexer.Proofs.Lexer.Checked
import LiteralLexer.Proofs.Config
import LiteralLexer.Proofs.Command
import LiteralLexer.Proofs.Number.Conversion
import LiteralLexer.Proofs.Juncture
import LiteralLexer.Proofs.Lexer.Payload
import LiteralLexer.Proofs.Lexer.Separation
import LiteralLexer.Proofs.Number.Value
import LiteralLexer.Proofs.Arguments
import LiteralLexer.Proofs.Places
import LiteralLexer.Proofs.Binary64.Interval
import LiteralLexer.Proofs.Binary64.Shortest
import LiteralLexer.Proofs.Binary64.Text
import LiteralLexer.Proofs.Printer
import LiteralLexer.Proofs.Suggestion.Edits
import LiteralLexer.Proofs.Suggestion.Distance
import LiteralLexer.Proofs.Lexer.Contract
import LiteralLexer.Proofs.Suggestion.Ranking
import LiteralLexer.Proofs.Template
import LiteralLexer.Proofs.Stride
