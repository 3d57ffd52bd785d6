import Stencil.Command
import Stencil.Yaml

/-!
# The program

The outer layer: it reads the files that the command line names, runs the
command, and writes what it comes to.  Every report is laid out, and the output is
strict UTF-8.
-/

namespace Stencil

/-- The string of a text. -/
def Text.toString (text : Text) : String :=
  String.ofList (text.map fun point => Char.ofNat point.val)

/-- The content of a file, if there is one. -/
def readFile (path : Path) : IO (Option (List UInt8)) := do
  match ← (IO.FS.readBinFile path.toText.toString).toBaseIO with
  | .ok content => return some content.toList
  | .error _ => return none

/-- All bytes of a stream. -/
partial def readBytes (stream : IO.FS.Stream) (before : ByteArray) : IO ByteArray := do
  let chunk ← stream.read 65536
  if chunk.isEmpty then return before else readBytes stream (before ++ chunk)

/-- The files that a command line may need. -/
def neededFiles (arguments : List Text) : List Path :=
  match Command.invocation arguments with
  | .parse _ given => (given.file :: given.delimiters.toList).map Path.of
  | _ => []

/-- The content of the standard input, if the command line asks for it. -/
def readInput (arguments : List Text) : IO (List UInt8) := do
  match Command.invocation arguments with
  | .parse _ given =>
    if given.file = Text.of "-" then
      let content ← readBytes (← IO.getStdin) ByteArray.empty
      return content.toList
    else return []
  | _ => return []

/-- How the program is used. -/
def usage : String :=
  "usage: ede [-v] [--verbose] [--pretty] (parse FILE [--syntax S] [--name N] | keywords)"

/-- Writes the result of a command and gives the exit code. -/
def writeResult : Command.Result → IO UInt32
  | .version => do
    IO.print Command.version.toString
    return 0
  | .help => do
    IO.println usage
    return 0
  | .misuse => do
    IO.eprintln usage
    return 2
  | .finished code output errors => do
    IO.print output.toString
    IO.eprint errors.toString
    return code.toUInt32
  | .halted _ => do
    IO.eprintln "number out of range"
    return 1
  | .unreadableSettings fault => do
    IO.eprintln fault.message.toString
    return 1
  | .notLaidOut journal => do
    IO.eprint journal.toString
    return 1
  | .notTaken journal => do
    IO.eprint journal.toString
    IO.eprintln "surrogates not allowed"
    return 1

end Stencil

/-- Runs the command line. -/
def main (arguments : List String) : IO UInt32 := do
  let arguments := arguments.map Stencil.Text.of
  let input ← Stencil.readInput arguments
  let mut contents : List (Stencil.Path × Option (List UInt8)) := []
  for path in Stencil.neededFiles arguments do
    contents := (path, ← Stencil.readFile path) :: contents
  let file (path : Stencil.Path) : Option (List UInt8) :=
    (contents.find? fun entry => entry.1 == path).bind Prod.snd
  let surroundings : Stencil.Command.Surroundings :=
    { file, input
      takes := Stencil.Utf8.isEncodable
      reader := Stencil.Yaml.read
      layOut := fun report => some report.toValue }
  Stencil.writeResult (Stencil.Command.run surroundings arguments)
