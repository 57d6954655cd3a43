import LiteralLexer.Command.Basic
import LiteralLexer.Yaml.Parser

/-!
# The program

Runs a command on the files of the computer and prints its outcome.
-/

namespace LiteralLexer

/-- Why a file could not be read.  Of the two errors about the type of a file, the one that names a
file arises when a path is followed, the other one when a directory is read. -/
def ReadError.ofSystem (path : String) : IO.Error → ReadError
  | .noFileOrDirectory .. => .notFound path
  | .inappropriateType (some _) .. => .notDirectory path
  | .inappropriateType none .. => .isDirectory
  | e => .refused (toString e)

/-- The octets that an action yields. -/
def readOctets (path : String) (action : IO ByteArray) : IO (Except ReadError (List UInt8)) := do
  try
    return .ok (← action).toList
  catch e =>
    return .error (.ofSystem path e)

/-- Everything that a stream still holds. -/
def readStream (stream : IO.FS.Stream) : IO ByteArray := do
  let mut octets := ByteArray.empty
  repeat
    let chunk ← stream.read 65536
    if chunk.isEmpty then break
    octets := octets ++ chunk
  return octets

/-- The files of the computer, for a program whose package is described at a path. -/
def hostEnvironment (packagePath : String) : Environment IO where
  isPresent path := do
    try
      let _ ← IO.FS.Handle.mk path .read
      return true
    catch
      | .noFileOrDirectory .. | .inappropriateType .. => return false
      | _ => return true
  read path := readOctets path (IO.FS.readBinFile path)
  readStandardInput := do readOctets "-" (readStream (← IO.getStdin))
  packagePath
  jsonFault _ := "The description of the package is not valid JSON"

end LiteralLexer

open LiteralLexer in
/-- Prints the outcome of a command and exits with its code.  The package is described in the directory
above that of the program. -/
def main (arguments : List String) : IO UInt32 := do
  let directory := (← IO.appPath).parent.getD "."
  let packagePath := toString (directory / ".." / "package.json")
  match ← Command.run Yaml.parse (hostEnvironment packagePath) arguments with
  | .ok outcome =>
    outcome.output.forM fun text => IO.println text
    outcome.errors.forM fun text => IO.eprintln text
    return UInt32.ofNat outcome.exitCode
  | .error e =>
    IO.eprintln e.message
    return 1
