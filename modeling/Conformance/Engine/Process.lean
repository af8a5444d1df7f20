import Conformance.Engine.Deadline
import Conformance.Engine.HostScript
import Conformance.Engine.ResultLine

/-!
# Engine processes

An engine can be a command that is started anew for each case, with the path of the case's script as
its last argument. It may print what it likes. What counts is the last result line of its standard
output, whatever its exit status is; without one the status and the end of its error output are
reported. A process that runs into its deadline has timed out, whatever it has printed.
-/

namespace Conformance

/-- What became of starting a process on a script. -/
inductive Launch where
  /-- The script could not be put into a file. -/
  | notStaged (reason : String)
  | notStarted (reason : String)
  /-- It runs, and prints this until its end. -/
  | started (child : Child) (output errors : List UInt8)

namespace Launch

/-- How many characters of the error output are reported. -/
def excerptLength : Nat := 512

def ellipsis : List Char := ['.', '.', '.']

/-- The end of an error output, without blanks around the output. -/
def excerpt (errors : List Char) : List Char :=
  let trimmed := Text.trim errors
  if trimmed.length ≤ excerptLength then trimmed
  else ellipsis ++ trimmed.drop (trimmed.length - excerptLength)

/-- What is concluded from the outputs of a process that has exited. -/
def conclude (complaint : String → String) (status : ExitStatus) (output errors : List UInt8) :
    Answer :=
  match ResultLine.parse complaint (Text.Utf8.lossy output) with
  | some (.ok o) => .outcome o
  | some (.error detail) => .fault (.protocol detail)
  | none =>
    .fault (.noResult status.describe (String.ofList (excerpt (Text.Utf8.lossy errors))))

/-- What a process answers when it is given `timeout`. -/
def answer (complaint : String → String) (command : String) (timeout : Duration) :
    Launch → Answer
  | .notStaged reason => .fault (.staging reason)
  | .notStarted reason => .fault (.launch command reason)
  | .started child output errors =>
    match child.watch? timeout with
    | some ⟨_, .exited status⟩ => conclude complaint status output errors
    | some ⟨_, .pollFailed reason⟩ => .fault (.wait reason)
    | some ⟨_, .overran⟩ | none => .outcome .timedOut

end Launch

/-- Where engine processes run and their output is read. -/
structure ProcessHost (σ : Type) where
  /-- What becomes of a command on a script until `limit`, and of the state that processes share. -/
  launch : EngineCommand → (script : String) → (limit : Duration) → σ → Launch × σ
  /-- What the JSON decoder says of a text that is no outcome. -/
  complaint : String → String

namespace ProcessHost

/-- The reply of an engine process to a program. -/
def reply {σ : Type} (host : ProcessHost σ) (e : EngineCommand) (timeout : Duration)
    (p : Program) (memory : σ) : Reply × σ :=
  let (launch, memory) := host.launch e (HostScript.script p) timeout memory
  (⟨launch.answer host.complaint e.command timeout, false, ⟨0⟩⟩, memory)

end ProcessHost

end Conformance
