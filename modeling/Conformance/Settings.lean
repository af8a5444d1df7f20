import Conformance.Discovery
import Conformance.Engine.Basic
import Conformance.Text.Blank
import Conformance.Toml.Reader

/-!
# Settings

How a run is set up: the time a case may take, how many workers there are, which files are left out,
after how many failing cases to stop, and how to start the engine. Settings are read from a TOML
file, in which nothing unknown may stand. What the command line gives goes before what the file
gives; arguments of the engine are never taken from both.
-/

namespace Conformance

/-- How to start an engine. -/
structure EngineSettings where
  command? : Option String
  /-- The arguments in front of the script's path. -/
  args : List String
  deriving DecidableEq, Repr

/-- How a run is set up. -/
structure Settings where
  timeoutMs : Nat
  parallelism? : Option Nat
  exclude : List String
  maxFailures? : Option Nat
  engine : EngineSettings
  deriving DecidableEq, Repr

/-- The settings that a command line gives. -/
structure Overrides where
  parallelism? : Option Nat
  timeoutMs? : Option Nat
  engine? : Option String
  engineArgs : List String
  maxFailures? : Option Nat
  deriving DecidableEq, Repr

namespace Settings

/-- The file that settings are read from if no other is named. -/
def defaultFile : Path := .ofText "conformance.toml"

/-- The settings when nothing is set. -/
def default : Settings :=
  { timeoutMs := 10000, parallelism? := none, exclude := [], maxFailures? := none
    engine := ⟨none, []⟩ }

/-- An unsigned integer. -/
def count? : Toml.Value → Option Nat
  | .integer n => if 0 ≤ n then some n.toNat else none
  | _ => none

/-- A text. -/
def text? : Toml.Value → Option String
  | .text s => some s
  | _ => none

/-- A list of texts. -/
def texts? : Toml.Value → Option (List String)
  | .array items => items.mapM text?
  | _ => none

/-- The entry of a key, or `fallback` if there is none. -/
def field? {α : Type} (entries : Toml.Entries) (key : String) (decode : Toml.Value → Option α)
    (fallback : α) : Option α :=
  match entries.lookup key with
  | none => some fallback
  | some value => decode value

/-- Every key is one of `known`. -/
def onlyKeys (known : List String) (entries : Toml.Entries) : Bool :=
  entries.all fun (key, _) => known.contains key

/-- The engine settings of a table, or of an array with the fields of one in order. -/
def engine? : Toml.Value → Option EngineSettings
  | .table _ entries =>
    if onlyKeys ["command", "args"] entries then do
      return ⟨← field? entries "command" (fun v => (text? v).map some) none,
        ← field? entries "args" texts? []⟩
    else none
  | .array [] => some ⟨none, []⟩
  | .array [command] => do return ⟨some (← text? command), []⟩
  | .array (command :: args :: _) => do return ⟨some (← text? command), ← texts? args⟩
  | _ => none

/-- The settings of a document's entries. -/
def ofEntries? (entries : Toml.Entries) : Option Settings :=
  if onlyKeys ["timeout_ms", "parallelism", "exclude", "max_failures", "engine"] entries then do
    return {
      timeoutMs := ← field? entries "timeout_ms" count? default.timeoutMs
      parallelism? := ← field? entries "parallelism" (fun v => (count? v).map some) none
      exclude := ← field? entries "exclude" texts? []
      maxFailures? := ← field? entries "max_failures" (fun v => (count? v).map some) none
      engine := ← field? entries "engine" engine? default.engine }
  else none

def ofText? (text : String) : Option Settings := (Toml.read? text.toList).bind ofEntries?

/-- The settings in a file. -/
def load (files : FileTree) (path : Path) : Except Abort Settings :=
  match files.readText path with
  | .error e => .error (.settingsUnreadable path e)
  | .ok text =>
    match ofText? text with
    | some settings => .ok settings
    | none => .error (.settingsMalformed path)

/-- The settings in the given file, or else in the default file if there is one. -/
def discover (files : FileTree) : Option Path → Except Abort Settings
  | some path => load files path
  | none => if files.hasFile defaultFile then load files defaultFile else .ok default

/-- The settings with those of a command line. -/
def override (s : Settings) (o : Overrides) : Settings :=
  { timeoutMs := o.timeoutMs?.getD s.timeoutMs
    parallelism? := o.parallelism?.or s.parallelism?
    exclude := s.exclude
    maxFailures? := o.maxFailures?.or s.maxFailures?
    engine :=
      { command? := o.engine?.or s.engine.command?
        args :=
          if o.engine?.isSome || !o.engineArgs.isEmpty then o.engineArgs else s.engine.args } }

/-- Checks the ranges of numbers and then the patterns. -/
def validate (s : Settings) : Except Abort Unit := do
  if s.timeoutMs = 0 then throw (.invalidSettings .zeroTimeout)
  if s.parallelism? = some 0 then throw (.invalidSettings .zeroParallelism)
  if s.maxFailures? = some 0 then throw (.invalidSettings .zeroMaxFailures)
  let _ ← s.exclude.mapM CaseRoot.pattern

/-- How long a case may take. -/
def timeout (s : Settings) : Duration := .ofMilliseconds s.timeoutMs

/-- How many workers there are, `fallback` if nothing is set. -/
def parallelism (s : Settings) (fallback : Nat) : Nat := s.parallelism?.getD fallback

/-- The command that starts the engine, without blanks around it. -/
def engineCommand (s : Settings) : Except Abort EngineCommand :=
  let command := (s.engine.command?.map Text.trimmed).getD ""
  if command.isEmpty then .error (.invalidSettings .noEngine)
  else .ok ⟨command, s.engine.args⟩

end Settings

end Conformance
