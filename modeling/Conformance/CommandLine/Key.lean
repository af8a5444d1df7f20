import Conformance.Path
import Conformance.Text.Digits
import Conformance.Word

/-!
# Options

What the options of a command line are called, which of them take a value, and what a value has to
look like. A number may have a plus sign and leading zeros, and has to fit in 64 bits. The path of a
file may be any octets but none at all. All other values are UTF-8.
-/

namespace Conformance.CommandLine

/-- Why a command line is not carried out, which includes that it asks for help. -/
inductive UsageError where
  | unknownArgument
  | missingRequiredArgument
  | invalidSubcommand
  | missingSubcommand
  /-- A value is not of its option's form. -/
  | valueValidation
  /-- A value that has to be a text is not UTF-8. -/
  | invalidUtf8
  /-- A value is missing or empty. -/
  | invalidValue
  /-- A switch was given a value. -/
  | tooManyValues
  /-- An option was given twice. -/
  | argumentConflict
  | displayHelp
  | displayVersion
  /-- Nothing was given. -/
  | displayHelpOnMissing
  deriving DecidableEq, Repr

namespace UsageError

/-- The name of the kind of an error. -/
def name : UsageError → String
  | .unknownArgument => "UnknownArgument"
  | .missingRequiredArgument => "MissingRequiredArgument"
  | .invalidSubcommand => "InvalidSubcommand"
  | .missingSubcommand => "MissingSubcommand"
  | .valueValidation => "ValueValidation"
  | .invalidUtf8 => "InvalidUtf8"
  | .invalidValue => "InvalidValue"
  | .tooManyValues => "TooManyValues"
  | .argumentConflict => "ArgumentConflict"
  | .displayHelp => "DisplayHelp"
  | .displayVersion => "DisplayVersion"
  | .displayHelpOnMissing => "DisplayHelpOnMissingArgumentOrSubcommand"

/-- The exit code: asking for help or the version is no mistake. -/
def exitCode : UsageError → Nat
  | .displayHelp => 0
  | .displayVersion => 0
  | _ => 2

end UsageError

/-- An option. -/
inductive Key where
  | filter
  | parallelism
  | timeout
  | engine
  | engineArg
  | config
  | maxFailures
  | json
  | report
  | verbose
  | help
  | version
  deriving DecidableEq, Repr

/-- What an option takes. -/
inductive Kind where
  /-- No value; it may be given once. -/
  | switch
  /-- No value; it counts how often it is given. -/
  | count
  /-- No value; it ends the reading with what it asks for. -/
  | request (answer : UsageError)
  /-- Any text that does not look like an option. -/
  | text
  | path
  | number
  /-- Any text at all, and it may be given again. -/
  | texts
  deriving DecidableEq, Repr

namespace Key

/-- The name after two hyphens. -/
def long : Key → String
  | .filter => "filter"
  | .parallelism => "parallelism"
  | .timeout => "timeout"
  | .engine => "engine"
  | .engineArg => "engine-arg"
  | .config => "config"
  | .maxFailures => "max-failures"
  | .json => "json"
  | .report => "report"
  | .verbose => "verbose"
  | .help => "help"
  | .version => "version"

/-- The letter after one hyphen. -/
def short? : Key → Option Char
  | .parallelism => some 'j'
  | .verbose => some 'v'
  | .help => some 'h'
  | .version => some 'V'
  | _ => none

/-- The option is called by these octets after two hyphens. -/
def hasName (k : Key) (name : List UInt8) : Bool := Text.Utf8.octets k.long == name

/-- The option is called by this octet after one hyphen. -/
def hasLetter (k : Key) (letter : UInt8) : Bool := k.short?.any fun c => c.toUInt8 == letter

/-- What the option takes. -/
def kind : Key → Kind
  | .filter => .text
  | .parallelism => .number
  | .timeout => .number
  | .engine => .text
  | .engineArg => .texts
  | .config => .path
  | .maxFailures => .number
  | .json => .switch
  | .report => .path
  | .verbose => .count
  | .help => .request .displayHelp
  | .version => .request .displayVersion

/-- The option takes a value. -/
def takesValue (k : Key) : Bool :=
  match k.kind with
  | .text => true
  | .path => true
  | .number => true
  | .texts => true
  | _ => false

end Key

/-- An unsigned 64-bit number. -/
def number? (text : String) : Option Nat :=
  let digits := match text.toList with
    | '+' :: rest => rest
    | all => all
  if digits.isEmpty then none else (Text.number? 10 digits).filter (· < Word.size)

/-- Checks the form of a value. -/
def Kind.check (kind : Kind) (value : List UInt8) : Except UsageError Unit :=
  match kind with
  | .path => if value.isEmpty then .error .invalidValue else .ok ()
  | .number =>
    match Text.Utf8.text? value with
    | none => .error .invalidUtf8
    | some numeral => if (number? numeral).isSome then .ok () else .error .valueValidation
  | .text | .texts => if (Text.Utf8.text? value).isSome then .ok () else .error .invalidUtf8
  | .switch | .count | .request _ => .ok ()

end Conformance.CommandLine
