import Conformance.CommandLine.Basic
import Conformance.Engine.Process
import Conformance.Pool.Schedule
import Conformance.Report.Comparison

/-!
# Execution of commands

A command reads files, prints, and says with its exit code whether all is well. A run also starts
engine processes and may store a report. It prints last, so a run that is given up has printed
nothing, and so has a comparison. A listing prints as it goes. What a command is given up for is
looked for in a fixed order, and engine processes are started only when settings, patterns, root and
engine command are all right.

Files are looked at as they were when the command was started, whatever engine processes do to them
in the meantime.
-/

namespace Conformance

/-- Whether a command found all well. -/
inductive Finding where
  | success
  | failures
  deriving DecidableEq, Repr

/-- The exit code of a finding. -/
def Finding.exitCode : Finding → Nat
  | .success => 0
  | .failures => 1

/-- The exit code of a command that was given up. -/
def abortExitCode : Nat := 2

/-- The finding that all is well if `well`. -/
def Finding.ofBool (well : Bool) : Finding := if well then .success else .failures

/-- What is left when a command is over. -/
structure Execution where
  outcome : Except Abort Finding
  /-- What was printed. -/
  output : String
  files : FileTree
  /-- The programs that were handed to the engine, latest first. -/
  history : List Program

namespace Execution

/-- A command given up before anything was done. -/
def givenUp (files : FileTree) (a : Abort) : Execution := ⟨.error a, "", files, []⟩

/-- The exit code. -/
def exitCode (e : Execution) : Nat :=
  match e.outcome with
  | .ok finding => finding.exitCode
  | .error _ => abortExitCode

end Execution

/-- What a run needs before it starts. -/
structure Preparation where
  root : CaseRoot
  engine : EngineCommand
  options : RunOptions

namespace RunArguments

/-- What the arguments, the settings and the files give for a run. `cores` is the number of workers
when nothing else is said. -/
def prepare (a : RunArguments) (cores : Nat) (files : FileTree) : Except Abort Preparation := do
  let settings := (← Settings.discover files a.config?).override a.overrides
  settings.validate
  let root ← (← CaseRoot.ofPath files a.root).exclude settings.exclude
  let engine ← settings.engineCommand
  return {
    root, engine
    options :=
      { parallelism := settings.parallelism cores
        filter? := a.filter?
        maxFailures? := settings.maxFailures?
        budget := settings.timeout } }

/-- The summary in the form that is asked for. -/
def printed (a : RunArguments) (s : Summary) : String :=
  if a.json then s.store ++ "\n" else s.report

/-- The files after the report was stored, if that is asked for. -/
def stored (a : RunArguments) (s : Summary) (files : FileTree) : Except Abort FileTree :=
  match a.report? with
  | none => .ok files
  | some path => (files.write path (Text.Utf8.octets s.store)).mapError (.report path)

/-- What is done when a run is over: the summary is stored, then printed. -/
def conclude (a : RunArguments) (s : Pool.State) (files : FileTree) : Execution :=
  match s.outcome with
  | .error abort => ⟨.error abort, "", files, s.history⟩
  | .ok summary =>
    match a.stored summary files with
    | .error abort => ⟨.error abort, "", files, s.history⟩
    | .ok files => ⟨.ok (.ofBool summary.success), a.printed summary, files, s.history⟩

/-- The cases run, and the result stored and printed. -/
def execute (a : RunArguments) (cores : Nat) (host : ProcessHost FileTree) (files : FileTree) :
    Execution :=
  match a.prepare cores files with
  | .error abort => .givenUp files abort
  | .ok p =>
    let engine := host.reply p.engine p.options.budget
    let (state, files) := Pool.State.run p.options engine files (p.root.items files) false
    a.conclude state files

end RunArguments

namespace ListArguments

/-- What of a scan is listed. -/
def accepts (a : ListArguments) (d : Discovered) : Bool :=
  match a.filter? with
  | none => true
  | some start => start.toList.isPrefixOf d.sectionKey.toList

/-- What a case expects, in the form of a listing. -/
def expectation : Option Expectation → String
  | none => "-"
  | some e => "negative:" ++ e.describe

/-- The line of something found. -/
def line : Discovered → String
  | .case c =>
    c.id ++ "\t" ++ c.sectionKey ++ "\t" ++ expectation c.metadata.expectation? ++ "\t" ++
      c.path.text
  | .malformed m => "MALFORMED\t" ++ m.path.text ++ "\t" ++ m.detail

/-- What is listed is no case. -/
def isMalformed : Discovered → Bool
  | .case _ => false
  | .malformed _ => true

/-- Where the cases are, by the settings and the files. -/
def caseRoot (a : ListArguments) (files : FileTree) : Except Abort CaseRoot := do
  let settings ← Settings.discover files a.config?
  settings.validate
  (← CaseRoot.ofPath files a.root).exclude settings.exclude

/-- What a listing does with what a scan yields: it prints until the first fault. -/
def conclude (a : ListArguments) (items : List (Except Abort Discovered)) (files : FileTree) :
    Execution :=
  let (found, fault?) := CaseRoot.beforeFault items
  let listed := found.filter a.accepts
  let outcome := match fault? with
    | some abort => .error abort
    | none => .ok (.ofBool !(listed.any isMalformed))
  ⟨outcome, String.join (listed.map fun d => line d ++ "\n"), files, []⟩

/-- The cases listed. -/
def execute (a : ListArguments) (files : FileTree) : Execution :=
  match a.caseRoot files with
  | .error abort => .givenUp files abort
  | .ok root => a.conclude (root.items files) files

end ListArguments

namespace DiffArguments

/-- The summary that a file holds. -/
def load (files : FileTree) (path : Path) : Except Abort Summary :=
  match files.readText path with
  | .error e => .error (.report path e)
  | .ok text =>
    match Summary.restore? text with
    | some s => .ok s
    | none => .error .reportMalformed

/-- The comparison of the two reports, the older one read first. -/
def comparison (a : DiffArguments) (files : FileTree) : Except Abort Comparison := do
  let old ← load files a.old
  return .between old (← load files a.new)

/-- The comparison in the form that is asked for. -/
def printed (a : DiffArguments) (c : Comparison) : String :=
  if a.json then c.toJson.pretty ++ "\n" else c.report

/-- The reports compared. -/
def execute (a : DiffArguments) (files : FileTree) : Execution :=
  match a.comparison files with
  | .error abort => .givenUp files abort
  | .ok c => ⟨.ok (.ofBool !c.regressed), a.printed c, files, []⟩

end DiffArguments

/-- The command carried out. -/
def Command.execute (c : Command) (cores : Nat) (host : ProcessHost FileTree) (files : FileTree) :
    Execution :=
  match c with
  | .run a => a.execute cores host files
  | .list a => a.execute files
  | .diff a => a.execute files

end Conformance
