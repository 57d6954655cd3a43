import LiteralLexer.Command.Arguments
import LiteralLexer.Config.Lexing
import LiteralLexer.FileSystem.Basic
import LiteralLexer.Text.Utf8
import LiteralLexer.Value.Parse

/-!
# Running a command

`Command.run` is the whole program: it reads the command line, loads the configuration, reads the
text and lexes it.  What it prints is collected in an `Outcome`; nothing is printed before the
outcome is known, so an error never leaves half of the tokens behind.  The parser of configurations
is a parameter.
-/

namespace LiteralLexer

/-- What the program leaves behind: the code it exits with, and what it printed to the standard
output and to the standard error stream. -/
structure Outcome where
  exitCode : Nat
  output : List String
  errors : List String
  deriving DecidableEq, Repr

namespace Outcome

/-- A run that prints a text. -/
def success (text : String) : Outcome := { exitCode := 0, output := [text], errors := [] }

/-- A run that complains. -/
def failure (text : String) : Outcome := { exitCode := 1, output := [], errors := [text] }

end Outcome

namespace Command

/-- How the program is used. -/
def helpText : String := String.intercalate "\n"
  ["Litlex Literal Lexer",
   "",
   "Usage:",
   "  litlex <file>              Lex a file (\"-\" reads stdin)",
   "  litlex -e <text>           Lex inline text",
   "  litlex --help              Show this help message",
   "  litlex --version           Show version information",
   "  litlex --explain <id>      Describe an error ID (e.g. LITLEX-L004)",
   "",
   "Options:",
   "  --format text|json         Output format (default: text)",
   "  --config <path>            Configuration file (default: ./.litlex.yaml)",
   "  --no-comments              Drop comment tokens",
   "",
   "Examples:",
   "  litlex -e '0x125 -flag \"text\"'",
   "  litlex --format json input.txt"]

/-- Why the program could not print what it was asked for. -/
inductive RunError where
  | arguments (e : ArgumentError)
  /-- The description of the package could not be read. -/
  | package (e : ReadError)
  /-- The description of the package is no JSON. -/
  | packageMalformed (message : String)
  /-- The version of the package cannot be shown as a text. -/
  | versionHidden
  /-- The configuration that was asked for is not there. -/
  | configNotFound (path : String)
  | config (e : ConfigError)
  /-- The text could not be read. -/
  | source (e : ReadError)
  /-- The text could be read, but not be lexed. -/
  | lexing (text : String) (failure : LexFailure)
  deriving Repr

/-- What is said about an error. -/
def RunError.report : RunError → Except ReportError String
  | .arguments e => .ok e.message
  | .package e => .ok e.toFailure.report
  | .packageMalformed message => .ok message
  | .versionHidden => .ok "Cannot convert object to primitive value"
  | .configNotFound path => .ok ("Configuration file not found: " ++ path)
  | .config e => .ok e.message
  | .source e => .ok e.toFailure.report
  | .lexing text failure => failure.report text

mutual

/-- Whether a value can be shown as a text.  A mapping cannot if it has a field under the name of the
method that shows a value. -/
def hasText : Value → Bool
  | .list items => haveText items
  | .mapping entries => (entries.lookup "toString").isNone
  | _ => true

def haveText : List Value → Bool
  | [] => true
  | item :: items => hasText item && haveText items

end

/-- The version that the description of a package names. -/
def versionOf (description : Value) : Except RunError String :=
  match description with
  | .mapping entries =>
    match entries.lookup "version" with
    | some value => if hasText value then .ok value.display else .error .versionHidden
    | none => .ok "unknown"
  | _ => .ok "unknown"

section Files

variable {m : Type → Type} [Monad m]

/-- Answers a request for the version. -/
def showVersion (env : Environment m) : m (Except RunError String) := do
  match ← env.read env.packagePath with
  | .error e => return .error (.package e)
  | .ok octets =>
    let text := Text.decodeUtf8 octets
    match Value.ofJson? text with
    | some description => return (versionOf description).map ("litlex " ++ ·)
    | none => return .error (.packageMalformed (env.jsonFault text))

/-- Reads a configuration.  Unless a path is given, the file in the working directory is read if
there is one. -/
def loadConfig (parse : DocumentParser) (env : Environment m) (path : Option String) :
    m (Except RunError Config) := do
  let file := path.getD Config.fileName
  if ← env.isPresent file then
    match ← env.read file with
    | .ok octets => return (Config.ofText parse (Text.decodeUtf8 octets)).mapError .config
    | .error e => return .error (.config (.unreadable e))
  else
    match path with
    | some path => return .error (.configNotFound path)
    | none => return .ok {}

/-- Reads the text to lex. -/
def readText (env : Environment m) : TextOrigin → m (Except RunError String)
  | .inline text => return .ok text
  | .file path => do
    let octets ← if path = "-" then env.readStandardInput else env.read path
    return (octets.map Text.decodeUtf8).mapError .source

/-- Answers a request to lex a text. -/
def lexText (parse : DocumentParser) (env : Environment m) (request : LexRequest) :
    m (Except RunError String) := do
  match ← loadConfig parse env request.configPath with
  | .error e => return .error e
  | .ok config =>
    match ← readText env request.origin with
    | .error e => return .error e
    | .ok text =>
      return (config.printTokens text request.format request.includeComments).mapError
        (.lexing text)

/-- The outcome of an attempt to print something. -/
def conclude (result : Except RunError String) : Except ReportError Outcome :=
  match result with
  | .ok text => .ok (.success text)
  | .error e => e.report.map .failure

/-- Describes the kind of error with a code. -/
def explanation (code : String) : Outcome :=
  match ErrorKind.ofCode? code with
  | some kind => .success kind.explain
  | none => .failure ("Unknown error ID: " ++ code)

/-- Runs the program on its arguments. -/
def run (parse : DocumentParser) (env : Environment m) (arguments : List String) :
    m (Except ReportError Outcome) := do
  match ofArguments arguments with
  | .error e => return conclude (.error (.arguments e))
  | .ok .help => return .ok (.success helpText)
  | .ok .version => return conclude (← showVersion env)
  | .ok (.explain code) => return .ok (explanation code)
  | .ok (.lex request) => return conclude (← lexText parse env request)

end Files

end Command

end LiteralLexer
