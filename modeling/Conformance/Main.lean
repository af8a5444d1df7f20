import Conformance.Execution
import Conformance.FileTree.Record
import Conformance.Shell.Host

/-!
# The program

The command stands in the arguments. The files of the working directory are read from standard
input, as a record. Standard output is what the command prints. On the error output stand why it was
given up and, if a run has stored a report, the record of the files after it.
-/

namespace Conformance.CommandLine

/-- How many workers a run has when nothing is said about it. -/
def usualWorkers : Nat := 4

/-- What is printed, what is complained of or recorded, and the exit code. -/
structure Response where
  output : String
  errors : String
  exitCode : Nat

/-- The files after a run that stored a report, as a line. -/
def filesLine (c : Command) (e : Execution) : String :=
  match c, e.outcome with
  | .run ⟨_, _, _, _, _, some _⟩, .ok _ => e.files.toJson.compact ++ "\n"
  | _, _ => ""

/-- The response to the words of a command line and a record of files. -/
def respond (words : List String) (record : String) : Response :=
  match parse (words.map Text.Utf8.octets), FileTree.ofText? record with
  | .error e, _ => ⟨"", e.name ++ "\n", e.exitCode⟩
  | .ok _, none => ⟨"", "the record of files cannot be read\n", abortExitCode⟩
  | .ok c, some files =>
    let e := c.command.execute usualWorkers (Shell.host Shell.temporaryDirectory) files
    let errors := match e.outcome with
      | .ok _ => filesLine c.command e
      | .error a => a.message ++ "\n"
    ⟨e.output, errors, e.exitCode⟩

end Conformance.CommandLine

/-- The lines of a stream up to its end, behind those already read. -/
partial def readAll (input : IO.FS.Stream) (front : String) : IO String := do
  let line ← input.getLine
  if line.isEmpty then return front else readAll input (front ++ line)

/-- The program. -/
def main (arguments : List String) : IO UInt32 := do
  let record ← readAll (← IO.getStdin) ""
  let response := Conformance.CommandLine.respond ("conformance-runner" :: arguments) record
  IO.print response.output
  IO.eprint response.errors
  return response.exitCode.toUInt32
