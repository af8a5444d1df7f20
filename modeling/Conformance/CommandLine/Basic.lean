import Conformance.CommandLine.Reading
import Conformance.Settings

/-!
# Command lines

A command line is words of octets: the name of the program, then a command with its arguments. How
much is logged may be said before and after the command's name; what is said after it counts, if
anything is.
-/

namespace Conformance

/-- The arguments of a run. -/
structure RunArguments where
  root : Path
  /-- Only cases whose section key starts so are run. -/
  filter? : Option String
  config? : Option Path
  overrides : Overrides
  /-- The summary is printed as JSON. -/
  json : Bool
  /-- Where the summary is stored as well. -/
  report? : Option Path
  deriving DecidableEq, Repr

/-- The arguments of a listing. -/
structure ListArguments where
  root : Path
  filter? : Option String
  config? : Option Path
  deriving DecidableEq, Repr

/-- The arguments of a comparison. -/
structure DiffArguments where
  old : Path
  new : Path
  /-- The comparison is printed as JSON. -/
  json : Bool
  deriving DecidableEq, Repr

/-- What is to be done. -/
inductive Command where
  | run (arguments : RunArguments)
  | list (arguments : ListArguments)
  | diff (arguments : DiffArguments)
  deriving DecidableEq, Repr

/-- A command, and how much is logged. -/
structure CommandLine where
  verbosity : Nat
  command : Command
  deriving DecidableEq, Repr

namespace CommandLine

/-- The name of a command. -/
inductive CommandName where
  | run
  | list
  | diff
  | help
  deriving DecidableEq, Repr

/-- The command of a name. -/
def CommandName.ofText? : String → Option CommandName
  | "run" => some .run
  | "list" => some .list
  | "diff" => some .diff
  | "help" => some .help
  | _ => none

def topGrammar : Grammar := ⟨[.verbose, .help, .version], 0⟩

/-- What a run takes. -/
def runGrammar : Grammar :=
  ⟨[.filter, .parallelism, .timeout, .engine, .engineArg, .config, .maxFailures, .json, .report,
    .verbose, .help], 1⟩

def listGrammar : Grammar := ⟨[.filter, .config, .verbose, .help], 1⟩

def diffGrammar : Grammar := ⟨[.json, .verbose, .help], 2⟩

/-- The command that a word names. -/
def CommandName.ofWord? (word : List UInt8) : Option CommandName :=
  (Text.Utf8.text? word).bind ofText?

def pathAt (r : Reading) (i : Nat) : Path := ⟨(r.positionals[i]?).getD []⟩

def path? (r : Reading) (k : Key) : Option Path := (r.value? k).map Path.mk

/-- The value of an option that takes a text. Its octets have been checked. -/
def textOf? (r : Reading) (k : Key) : Option String := (r.value? k).map Text.Utf8.lossyText

def numberOf? (r : Reading) (k : Key) : Option Nat := (textOf? r k).bind number?

/-- The arguments of a run. -/
def runArguments (r : Reading) : RunArguments :=
  { root := pathAt r 0
    filter? := textOf? r .filter
    config? := path? r .config
    overrides :=
      { parallelism? := numberOf? r .parallelism
        timeoutMs? := numberOf? r .timeout
        engine? := textOf? r .engine
        engineArgs := (r.valuesOf .engineArg).map Text.Utf8.lossyText
        maxFailures? := numberOf? r .maxFailures }
    json := r.has .json
    report? := path? r .report }

/-- The arguments of a listing. -/
def listArguments (r : Reading) : ListArguments :=
  { root := pathAt r 0, filter? := textOf? r .filter, config? := path? r .config }

/-- The arguments of a comparison. -/
def diffArguments (r : Reading) : DiffArguments :=
  { old := pathAt r 0, new := pathAt r 1, json := r.has .json }

/-- The words after the name of a command. -/
def ofCommand (name : CommandName) (words : List (List UInt8)) :
    Except UsageError (Nat × Command) := do
  match name with
  | .run =>
    let r ← Reading.ofWords runGrammar words
    return (r.count, .run (runArguments r))
  | .list =>
    let r ← Reading.ofWords listGrammar words
    return (r.count, .list (listArguments r))
  | .diff =>
    let r ← Reading.ofWords diffGrammar words
    return (r.count, .diff (diffArguments r))
  | .help =>
    match words with
    | [] => throw .displayHelp
    | [word] =>
      throw (if (CommandName.ofWord? word).isSome then .displayHelp else .invalidSubcommand)
    | _ => throw .invalidSubcommand

/-- The words from the start, or from inside what stands in front of the command. -/
def ofWordsFrom (r : Reading) : List (List UInt8) → Except UsageError CommandLine
  | [] => .error (if r.count = 0 then .displayHelpOnMissing else .missingSubcommand)
  | word :: rest =>
    match CommandName.ofWord? word, Word.ofOctets word with
    | some name, _ =>
      if r.trailing then .error .unknownArgument
      else do
        let (count, command) ← ofCommand name rest
        return ⟨if count = 0 then r.count else count, command⟩
    | none, .plain => .error .invalidSubcommand
    | none, _ =>
      if r.trailing then .error .invalidSubcommand
      else do ofWordsFrom (← r.step topGrammar word) rest

/-- The command line of its words, the first of which names the program. -/
def parse (words : List (List UInt8)) : Except UsageError CommandLine :=
  ofWordsFrom .start words.tail

end CommandLine

end Conformance
