import Conformance.Shell.Reader
import Conformance.Shell.Tool

/-!
# Sessions

The state of a shell: its variables and parameters, where its descriptors lead, what has been
written, how late it is, and whether it goes on. Outputs are kept in buffers. The first two are the
outputs of the process; more come up while a pipe or the output of a command is collected.

A session that has run into its limit is cut off: it neither goes on nor ends.
-/

namespace Conformance.Shell

/-- Where a descriptor leads. -/
inductive Sink where
  | buffer (i : Nat)
  | file (path : String)
  | nowhere
  deriving DecidableEq, Repr

/-- What was written to a buffer. -/
structure Buffer where
  /-- Latest first. -/
  written : List UInt8
  /-- What follows without end. -/
  forever : List UInt8
  deriving Repr

def Buffer.empty : Buffer := ⟨[], []⟩

/-- How a session goes on. -/
inductive Flow where
  | going
  /-- It leaves that many loops, the last of which goes on if `again`. -/
  | leaving (loops : Nat) (again : Bool)
  | returning
  | exited
  | killed (signal : Nat)
  | cutOff
  deriving DecidableEq, Repr

/-- The state of a shell. -/
structure Session where
  name : String
  /-- The line of the script that is carried out. -/
  line : Nat
  arguments : List String
  bindings : Arithmetic.Variables
  functions : List (String × Script)
  status : Nat
  input : Stream
  sinks : List (Nat × Sink)
  buffers : List Buffer
  machine : Machine
  /-- The nanoseconds since the start. -/
  clock : Nat
  limit : Nat
  /-- How many loops are going on. -/
  loops : Nat
  /-- When the last of the background commands ends. -/
  backgroundEnd : Nat
  flow : Flow

namespace Session

def processNumber : Nat := 4242

/-- The first state of a shell. -/
def start (name : String) (arguments : List String) (machine : Machine) (limit : Nat) : Session :=
  { name, line := 1, arguments, bindings := [("PWD", Machine.workingDirectory)], functions := []
    status := 0, input := .empty, sinks := [(1, .buffer 0), (2, .buffer 1)]
    buffers := [.empty, .empty], machine, clock := 0, limit, loops := 0, backgroundEnd := 0,
    flow := .going }

def going (s : Session) : Bool := s.flow == .going

/-- What was written to a buffer, in order. -/
def written (s : Session) (i : Nat) : Stream :=
  match s.buffers[i]? with
  | some b => ⟨b.written.reverse, b.forever⟩
  | none => .empty

/-- The session after something was written to a descriptor. -/
def write (descriptor : Nat) (text : Stream) (s : Session) : Session :=
  match s.sinks.lookup descriptor with
  | some (.buffer i) =>
    { s with buffers := s.buffers.modify i fun b =>
        if b.forever.isEmpty then ⟨text.octets.reverseAux b.written, text.forever⟩ else b }
  | some (.file path) =>
    if !text.forever.isEmpty then { s with flow := .cutOff }
    else if text.octets.isEmpty then s
    else match s.machine.write path text.octets true with
      | .ok machine => { s with machine }
      | .error _ => { s with status := 1 }
  | some .nowhere | none => if text.forever.isEmpty then s else { s with flow := .cutOff }

/-- The session after a text was written to a descriptor. -/
def writeText (descriptor : Nat) (text : String) (s : Session) : Session :=
  s.write descriptor (.ofOctets (Text.Utf8.octets text))

/-- What a message is about, with the name of the shell and the line in front. -/
def place (about : String) (s : Session) : String :=
  s.name ++ ": " ++ toString s.line ++ ": " ++ about

def report (message : String) (s : Session) : Session := s.writeText 2 (s.place message ++ "\n")

/-- The session after a command that failed with a message. -/
def fail (status : Nat) (message : String) (s : Session) : Session :=
  { s.report message with status }

/-- The shell gives up with a message. -/
def abandon (message : String) (s : Session) : Session :=
  { s.fail 2 message with flow := .exited }

/-- Time passes. -/
def wait (nanoseconds : Nat) (s : Session) : Session :=
  let clock := s.clock + nanoseconds
  if s.limit < clock then { s with clock, flow := .cutOff } else { s with clock }

/-- The session after a tool was run. -/
def useTool (tool : Tool) (arguments : List String) (s : Session) : Session :=
  match tool arguments s.input s.machine with
  | none => { s with flow := .cutOff }
  | some e =>
    let s := { s with machine := e.machine, status := e.status }
    ((s.write 1 e.output).write 2 (.ofOctets e.errors)).wait e.pause

/-- What a subshell leaves behind: all but what is its own. -/
def rejoin (parent child : Session) : Session :=
  { parent with
    status := child.status, buffers := child.buffers, clock := child.clock
    machine := { child.machine with directory := parent.machine.directory }
    backgroundEnd := child.backgroundEnd
    flow := match child.flow with
      | .killed signal => .killed signal
      | .cutOff => .cutOff
      | _ => parent.flow }

/-- A descriptor set. -/
def setSink (descriptor : Nat) (sink : Sink) (s : Session) : Session :=
  { s with sinks := (descriptor, sink) :: s.sinks.filter (·.1 ≠ descriptor) }

/-- The session with an empty buffer more, which the output goes to. -/
def collecting (s : Session) : Session :=
  { s with buffers := s.buffers ++ [Buffer.empty] }.setSink 1 (.buffer s.buffers.length)

def dropBuffers (n : Nat) (s : Session) : Session := { s with buffers := s.buffers.take n }

/-- The value of a parameter, if it is set. -/
def parameter? (name : String) (s : Session) : Option String :=
  match name with
  | "#" => some (toString s.arguments.length)
  | "?" => some (toString s.status)
  | "$" => some (toString processNumber)
  | "!" => some (toString (processNumber + 1))
  | "-" => some ""
  | "@" => some (String.intercalate " " s.arguments)
  | "*" => some (String.intercalate " " s.arguments)
  | "0" => some s.name
  | name =>
    match Text.number? 10 name.toList with
    | some n => if name.isEmpty then none else s.arguments[n - 1]?
    | none => s.bindings.lookup name

/-- A variable set. -/
def setVariable (name value : String) (s : Session) : Session :=
  { s with bindings := Arithmetic.set name value s.bindings }

/-- How a process ended whose session this is, if it ended. -/
def ending (s : Session) : Option (Nat × Option Nat) :=
  match s.flow with
  | .cutOff => none
  | .killed _ => some (s.clock, none)
  | _ => some (s.clock, some (s.status % 256))

end Session

end Conformance.Shell
