import LiteralLexer.FileSystem.Basic

/-!
# Files in memory

A `FileTree` holds files and directories by their paths from the root.  A path is followed part by
part from the working directory, or from the root if it starts with `/`; every part but the last has
to lead to a directory.
-/

namespace LiteralLexer

/-- What a path leads to. -/
inductive FileEntry where
  | file (octets : List UInt8)
  | directory
  deriving DecidableEq, Repr

/-- Files and directories by the parts of their paths. -/
structure FileTree where
  entries : List (List String × FileEntry)
  workingDirectory : List String
  deriving Repr

namespace FileTree

/-- What the parts of a path lead to.  A directory need not have an entry of its own: it is enough
that something is inside it. -/
def entryAt? (t : FileTree) (parts : List String) : Option FileEntry :=
  match t.entries.lookup parts with
  | some entry => some entry
  | none =>
    if parts.isPrefixOf t.workingDirectory || t.entries.any (parts.isPrefixOf ·.1) then
      some .directory
    else none

/-- Follows the parts of a path from a place on.  `path` is the whole path. -/
def follow (t : FileTree) (path : String) (here : List String) :
    List String → Except ReadError FileEntry
  | [] =>
    match t.entryAt? here with
    | some entry => .ok entry
    | none => .error (.notFound path)
  | part :: parts =>
    match t.entryAt? here with
    | none => .error (.notFound path)
    | some (.file _) => .error (.notDirectory path)
    | some .directory =>
      if part = "" || part = "." then follow t path here parts
      else if part = ".." then follow t path here.dropLast parts
      else follow t path (here ++ [part]) parts

/-- What a path leads to.  The empty path leads nowhere. -/
def find (t : FileTree) (path : String) : Except ReadError FileEntry :=
  if path = "" then .error (.notFound path)
  else if path.toList.head? = some '/' then t.follow path [] (path.splitOn "/")
  else t.follow path t.workingDirectory (path.splitOn "/")

/-- The octets of the file under a path. -/
def read (t : FileTree) (path : String) : Except ReadError (List UInt8) :=
  match t.find path with
  | .ok (.file octets) => .ok octets
  | .ok .directory => .error .isDirectory
  | .error e => .error e

/-- A tree and a standard input as an environment, for a program whose package is described in a file of
the tree. -/
def environment (t : FileTree) (standardInput : List UInt8) (packagePath : String) :
    Environment Id where
  isPresent path := (t.find path).isOk
  read := t.read
  readStandardInput := .ok standardInput
  packagePath
  jsonFault _ := "The description of the package is not valid JSON"

end FileTree

end LiteralLexer
