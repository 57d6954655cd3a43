import LiteralLexer.Diagnostic.Report

/-!
# Reading files

Why a file could not be read, and what a program may ask of the files around it.  The questions are
asked in a monad, so that the same program runs on the files of a computer and on a `FileTree`.
-/

namespace LiteralLexer

/-- Why a file could not be read. -/
inductive ReadError where
  /-- There is nothing under this path. -/
  | notFound (path : String)
  /-- The path goes through a file as if it were a directory. -/
  | notDirectory (path : String)
  /-- The path leads to a directory. -/
  | isDirectory
  /-- Any other reason, in the words of the system. -/
  | refused (reason : String)
  deriving DecidableEq, Repr

namespace ReadError

/-- The message of the system. -/
def message : ReadError → String
  | .notFound path => "ENOENT: no such file or directory, open '" ++ path ++ "'"
  | .notDirectory path => "ENOTDIR: not a directory, open '" ++ path ++ "'"
  | .isDirectory => "EISDIR: illegal operation on a directory, read"
  | .refused reason => reason

/-- The failure that is reported.  Only a missing file is reported by its path. -/
def toFailure (e : ReadError) : Failure :=
  match e with
  | .notFound path =>
    { message := e.message, details := [("code", .text "ENOENT"), ("path", .text path)] }
  | _ => { message := e.message }

end ReadError

/-- What a program may ask of the files around it, and of what it runs on. -/
structure Environment (m : Type → Type) where
  /-- Whether a path leads to a file or a directory. -/
  isPresent : String → m Bool
  /-- The octets of a file. -/
  read : String → m (Except ReadError (List UInt8))
  /-- The octets of the standard input. -/
  readStandardInput : m (Except ReadError (List UInt8))
  /-- The path of the description of the package that the program belongs to. -/
  packagePath : String
  /-- What is said about a text that is no JSON. -/
  jsonFault : String → String

end LiteralLexer
