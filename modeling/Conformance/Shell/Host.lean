import Conformance.Engine.Process
import Conformance.Shell.Evaluation

/-!
# A host for engine processes

Engine processes run in the shell of this library or are one of its tools. Processes share the files
of the working directory. Each gets its script in a file of its own in the temporary directory, and
nothing to read. Time passes when a process starts and when it sleeps.
-/

namespace Conformance.Shell

/-- The usual directory of staged scripts. -/
def temporaryDirectory : String := "/tmp"

/-- The name of a staged script. -/
def scriptName : String := "conformance-case-Xq3vT8.js"

/-- How long a process takes to start, in nanoseconds. -/
def startTime : Nat := 1000000

/-- Why a command cannot be started, if it cannot. -/
def refusal? (m : Machine) (command : String) (arguments : List String) : Option String :=
  let base := commandName command
  if (command :: arguments).any fun a => a.toList.contains '\x00' then
    some "nul byte found in provided data"
  else if shellNames.contains base || base = "env" || (Tool.find? base).isSome then none
  else if command = "." ∨ command = ".." then some FileError.permissionDenied.message
  else if !command.toList.contains '/' then some FileError.notFound.message
  else if m.has command then some FileError.permissionDenied.message
  else
    match (m.local? command).map m.tree.find with
    | some (.error e) => some e.message
    | _ => some FileError.notFound.message

/-- A command carried out to its end or its limit. -/
def session (m : Machine) (command : String) (arguments : List String) (limit : Nat) : Session :=
  (runProcess (evalTo depthBound) (command :: arguments) (.start command [] m limit)).2

def Session.output (s : Session) (i : Nat) : List UInt8 := (s.written i).octets

/-- How a session ends, as a process that is watched. -/
def Session.child (s : Session) : Child :=
  if !((s.written 0).forever.isEmpty && (s.written 1).forever.isEmpty) then .ofEnding none
  else .ofEnding (s.ending.map fun (clock, status?) =>
    (⟨startTime + clock⟩, (status?.map ExitStatus.code).getD .signal))

/-- The path of the staged script in a directory. -/
def scriptPath (directory : String) : String :=
  let path := (Path.ofText directory).join (Text.Utf8.octets scriptName)
  if path.isAbsolute then path.text
  else ((Path.ofText Machine.workingDirectory).join path.octets).text

/-- What becomes of a command on a script that is staged in a directory. -/
def launch (temporary : String) (e : EngineCommand) (script : String) (limit : Duration)
    (tree : FileTree) : Launch × FileTree :=
  let path := scriptPath temporary
  let m : Machine := ⟨tree, Machine.workingDirectory, path, some (Text.Utf8.octets script)⟩
  if !m.hasDirectory (if temporary.isEmpty then "." else temporary) then
    (.notStaged (if m.has temporary then FileError.notDirectory else .notFound).message, tree)
  else
    let arguments := e.args ++ [path]
    match refusal? m e.command arguments with
    | some reason => (.notStarted reason, tree)
    | none =>
      let s := session m e.command arguments (limit.nanoseconds + Child.pollInterval.nanoseconds)
      (.started s.child (s.output 0) (s.output 1), s.machine.tree)

/-- The host whose processes share a working directory. -/
def host (temporary : String) : ProcessHost FileTree :=
  { launch := launch temporary, complaint := fun _ => "no outcome" }

end Conformance.Shell
