import Conformance.Json.Shape
import Conformance.Text.Blank
import Conformance.Text.Order

/-!
# What a header says about a case

A case has a name and may have a section, an assertion, a description and an expectation: that an
error is raised, any one or one of a given kind. Its flags say among other things whether it has to
run as strict code. For counting, a section reference is reduced to its first entry.
-/

namespace Conformance

/-- What a negative case expects to be raised. -/
inductive Expectation where
  | anyError
  | kind (name : String)
  deriving DecidableEq, Repr

namespace Expectation

/-- A raised error of this kind is what was expected. -/
def accepts : Expectation → String → Bool
  | .anyError, _ => true
  | .kind name, raised => name == raised

/-- How a message names what was expected. -/
def describe : Expectation → String
  | .anyError => "an error"
  | .kind name => name

/-- The expectation of a name and its content. -/
def ofParts? (name : String) (content : Option Json) : Option Expectation :=
  match name, content with
  | "any_error", none => some .anyError
  | "any_error", some .null => some .anyError
  | "kind", some content => content.text?.map .kind
  | _, _ => none

/-- An expectation is written as a record of its name, `expects`, and its content, `kind`. A
content that comes first is taken as a whole. -/
def ofJson? : Json → Option Expectation
  | .array [name, content] => do ofParts? (← name.choice?) (some content)
  | value => do
    let members ← value.members
    match members.filter fun (name, _) => name == "expects" || name == "kind" with
    | [("expects", name)] => ofParts? (← name.choice?) none
    | [("expects", name), ("kind", content)] => ofParts? (← name.choice?) (some content)
    | [("kind", content), ("expects", name)] =>
      if content.whole 1 then ofParts? (← name.choice?) (some content) else none
    | _ => none

end Expectation

/-- The form a header is written in. -/
inductive Dialect where
  /-- A comment with `@name: value;` lines. -/
  | tagged
  /-- A comment that holds YAML. -/
  | frontmatter
  deriving DecidableEq, Repr

/-- What the header of a case says. -/
structure Metadata where
  name : String
  /-- The section reference as written. -/
  reference? : Option String
  assertion? : Option String
  description? : Option String
  expectation? : Option Expectation
  /-- The flags in order, without repetitions. -/
  flags : List String
  dialect : Dialect
  deriving DecidableEq, Repr

/-- The flag of cases that run as strict code only. -/
def strictFlag : String := "onlyStrict"

/-- The flag of cases that do not run as strict code. -/
def sloppyFlag : String := "noStrict"

/-- The flags contradict each other. -/
def contradictory (flags : List String) : Bool :=
  flags.contains strictFlag && flags.contains sloppyFlag

namespace SectionKey

def unsectioned : String := "<unsectioned>"

/-- The key of files whose header could not be read. -/
def malformed : String := "<malformed>"

/-- The key of a section reference: its first entry, trimmed, if that is not empty. -/
def ofReference : Option String → String
  | none => unsectioned
  | some reference =>
    let first := Text.trim (reference.toList.takeWhile (· ≠ ','))
    if first.isEmpty then unsectioned else String.ofList first

end SectionKey

/-- Why a header could not be read. -/
inductive HeaderError where
  | missing
  | unterminatedTags
  | unsupportedNegative (value : String)
  | missingName
  | exclusiveTags
  | unterminatedFrontmatter
  | badFrontmatter
  | missingSection
  | missingFileName
  | exclusiveFlags
  deriving DecidableEq, Repr

/-- The wording of a header error. -/
def HeaderError.message : HeaderError → String
  | .missing => "no metadata header comment found"
  | .unterminatedTags => "unterminated metadata header comment"
  | .unsupportedNegative value => "unsupported @negative value \x60" ++ value ++ "\x60"
  | .missingName => "missing required @name tag"
  | .exclusiveTags => "@onlyStrict and @noStrict are mutually exclusive"
  | .unterminatedFrontmatter => "unterminated YAML frontmatter"
  | .badFrontmatter => "failed to parse YAML frontmatter: <yaml>"
  | .missingSection => "frontmatter has no es5id, esid or es6id"
  | .missingFileName => "case file name is not valid UTF-8"
  | .exclusiveFlags => "flags onlyStrict and noStrict are mutually exclusive"

end Conformance
