import LiteralLexer.Token.Printer

/-!
# Command lines

Reads the arguments of the program.  The value of an option is taken as it is, so `-e -v` asks for
the text `-v` to be lexed.  Options may come in any order; of two values for one option the later
one counts.
-/

namespace LiteralLexer

/-- Where the text to lex comes from. -/
inductive TextOrigin where
  /-- A file; the path `-` is the standard input. -/
  | file (path : String)
  /-- The command line itself. -/
  | inline (text : String)
  deriving DecidableEq, Repr

/-- A request to lex a text. -/
structure LexRequest where
  origin : TextOrigin
  format : OutputFormat
  configPath : Option String
  includeComments : Bool
  deriving DecidableEq, Repr

/-- What the program is asked to do. -/
inductive Command where
  | lex (request : LexRequest)
  /-- Describe the kind of error with a code. -/
  | explain (code : String)
  | help
  | version
  deriving DecidableEq, Repr

/-- What can be wrong with a command line. -/
inductive ArgumentError where
  /-- A second path. -/
  | unexpectedArgument (argument : String)
  | unknownOption (option : String)
  /-- The command line ends behind an option that takes a value. -/
  | missingValue (option : String)
  | invalidFormat (name : String)
  | missingInput
  deriving DecidableEq, Repr

/-- What is said about a command line. -/
def ArgumentError.message : ArgumentError → String
  | .unexpectedArgument argument => "Unexpected argument: " ++ argument
  | .unknownOption option => "Unknown option: " ++ option
  | .missingValue option => option ++ " requires an argument"
  | .invalidFormat name => "Invalid format: " ++ name ++ ". Expected text or json"
  | .missingInput => "Missing input: pass a file path or -e <text>"

/-- The layout with a name. -/
def OutputFormat.ofName? : String → Option OutputFormat
  | "text" => some .text
  | "json" => some .json
  | _ => none

/-- What a single argument asks for. -/
inductive Argument where
  | path
  | help
  | version
  | dropComments
  | format
  | config
  | explain
  | inlineText
  | unknown
  deriving DecidableEq, Repr

/-- Classifies an argument.  What does not start with a dash is a path, and so is a single dash. -/
def Argument.classify (argument : String) : Argument :=
  if argument.toList.head? ≠ some '-' || argument = "-" then .path
  else if argument = "--help" || argument = "-h" then .help
  else if argument = "--version" || argument = "-v" then .version
  else if argument = "--no-comments" then .dropComments
  else if argument = "--format" then .format
  else if argument = "--config" then .config
  else if argument = "--explain" then .explain
  else if argument = "-e" then .inlineText
  else .unknown

/-- What the arguments before have asked for. -/
structure Settings where
  path : Option String := none
  inlineText : Option String := none
  explain : Option String := none
  format : OutputFormat := .text
  configPath : Option String := none
  includeComments : Bool := true
  deriving DecidableEq, Repr

namespace Settings

/-- Sets the value of an option that takes one. -/
def withValue (s : Settings) (option : Argument) (value : String) :
    Except ArgumentError Settings :=
  match option with
  | .format =>
    match OutputFormat.ofName? value with
    | some format => .ok { s with format }
    | none => .error (.invalidFormat value)
  | .config => .ok { s with configPath := some value }
  | .explain => .ok { s with explain := some value }
  | .inlineText => .ok { s with inlineText := some value }
  | _ => .ok s

/-- The request to lex a text under these settings. -/
def request (s : Settings) (origin : TextOrigin) : LexRequest where
  origin
  format := s.format
  configPath := s.configPath
  includeComments := s.includeComments

/-- The command that settings amount to.  An explanation goes before a text, and a text before a
file. -/
def command (s : Settings) : Except ArgumentError Command :=
  match s.explain, s.inlineText, s.path with
  | some code, _, _ => .ok (.explain code)
  | none, some text, _ => .ok (.lex (s.request (.inline text)))
  | none, none, some path => .ok (.lex (s.request (.file path)))
  | none, none, none => .error .missingInput

end Settings

namespace Command

/-- Reads arguments under the settings made before them. -/
def ofArgumentsAfter (s : Settings) : List String → Except ArgumentError Command
  | [] => s.command
  | argument :: rest =>
    match Argument.classify argument with
    | .path =>
      if s.path.isSome then .error (.unexpectedArgument argument)
      else ofArgumentsAfter { s with path := some argument } rest
    | .help => .ok .help
    | .version => .ok .version
    | .dropComments => ofArgumentsAfter { s with includeComments := false } rest
    | .unknown => .error (.unknownOption argument)
    | option =>
      match rest with
      | [] => .error (.missingValue argument)
      | value :: rest =>
        match s.withValue option value with
        | .ok s => ofArgumentsAfter s rest
        | .error e => .error e

/-- The command that the arguments of the program spell. -/
def ofArguments (arguments : List String) : Except ArgumentError Command :=
  ofArgumentsAfter {} arguments

end Command

end LiteralLexer
