import Conformance.Engine.Outcome
import Conformance.FileTree
import Conformance.Word

/-!
# Engines

An engine gets a program, which is the text of a case and how to run it. It answers with an outcome,
with a fault when no outcome could be observed, or by panicking. Whatever it does, one trace of it
is kept.
-/

namespace Conformance

/-- A length of time. -/
structure Duration where
  nanoseconds : Nat
  deriving DecidableEq, Repr, Inhabited

namespace Duration

def ofMilliseconds (n : Nat) : Duration := ⟨n * 1000000⟩

/-- A number of seconds and nanoseconds. -/
def ofParts (seconds nanoseconds : Nat) : Duration := ⟨seconds * 1000000000 + nanoseconds⟩

def seconds (d : Duration) : Nat := d.nanoseconds / 1000000000

/-- The nanoseconds beside the whole seconds. -/
def fraction (d : Duration) : Nat := d.nanoseconds % 1000000000

/-- The whole milliseconds, as a 64-bit word. -/
def milliseconds (d : Duration) : Nat := d.nanoseconds / 1000000 % Word.size

end Duration

/-- The text of a case and how to run it. -/
structure Program where
  id : String
  body : String
  strict : Bool
  deriving DecidableEq, Repr

/-- A command to start an engine with. -/
structure EngineCommand where
  command : String
  args : List String
  deriving DecidableEq, Repr

/-- Why an engine gave no outcome. -/
inductive EngineFault where
  | launch (command reason : String)
  | staging (reason : String)
  | wait (reason : String)
  | noResult (status stderr : String)
  /-- What stands after the marker of the result line cannot be read. -/
  | protocol (detail : String)
  deriving DecidableEq, Repr

/-- The wording of an engine fault. -/
def EngineFault.message : EngineFault → String
  | .launch command reason => "failed to launch engine \x60" ++ command ++ "\x60: " ++ reason
  | .staging reason => "failed to stage host script: " ++ reason
  | .wait reason => "failed to wait on engine process: " ++ reason
  | .noResult status stderr =>
    "engine exited (" ++ status ++ ") without reporting a result; stderr: " ++ stderr
  | .protocol detail => "malformed result line from engine: " ++ detail

/-- What an engine answers. -/
inductive Answer where
  | outcome (o : Outcome)
  | fault (f : EngineFault)
  /-- It panicked, with a text or with something else. -/
  | panic (payload : Option String)
  deriving DecidableEq, Repr

/-- What an engine does with a program. -/
structure Reply where
  answer : Answer
  /-- It cancels the run before it answers. -/
  cancels : Bool
  elapsed : Duration
  deriving DecidableEq, Repr

/-- What is kept of an answer: the outcome, or a description of what prevented it. -/
def Answer.capture : Answer → Except String Outcome
  | .outcome o => .ok o
  | .fault f => .error f.message
  | .panic payload => .error ("engine panicked: " ++ payload.getD "non-string panic payload")

/-- What was observed of one case. -/
structure Trace where
  outcome : Except String Outcome
  budget : Duration
  elapsed : Duration

end Conformance
