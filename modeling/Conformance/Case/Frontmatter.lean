import Conformance.Case.Metadata
import Conformance.Path
import Conformance.Yaml.Shape

/-!
# Frontmatter headers

A frontmatter header is a block comment whose first line is `/*---`. The YAML text is what stands
between that line and the first `---*/`, less one line end directly before it. The record in it has
no name, so the case is named after its file, whose name has to be UTF-8; its section is the first
of three identifiers that has a value.
-/

namespace Conformance.Frontmatter

/-- The text without the line end it ends in, if it ends in one. -/
def dropLineEnd (text : List Char) : List Char :=
  match text.reverse with
  | '\n' :: '\r' :: rest => rest.reverse
  | '\n' :: rest => rest.reverse
  | '\r' :: rest => rest.reverse
  | _ => text

/-- The text after the opening mark and its line end. -/
def opened? (header : List Char) : Option (List Char) :=
  match header with
  | '/' :: '*' :: '-' :: '-' :: '-' :: '\n' :: rest => some rest
  | '/' :: '*' :: '-' :: '-' :: '-' :: '\r' :: '\n' :: rest => some rest
  | _ => none

/-- The YAML text of a header. -/
def yaml? (header : List Char) : Option (List Char) := do
  let (block, _) ← Text.breakOn ['-', '-', '-', '*', '/'] (← opened? header)
  return dropLineEnd block

/-- The record in the YAML text. -/
structure Record where
  description? : Option String := none
  info? : Option String := none
  /-- The type of the error that a negative case expects. -/
  negative? : Option String := none
  flags : List String := []
  es5id? : Option String := none
  esid? : Option String := none
  es6id? : Option String := none
  deriving DecidableEq, Repr

/-- The error type in a negative block, which may also name a phase. -/
def errorType? (d : Yaml.Document) (node : Yaml.Node) : Option String := do
  match ← d.fields? ["phase", "type"] node with
  | [phase, type] =>
    let _ ← d.absent? d.text? phase
    d.text? (← type)
  | _ => none

/-- The record of a document. -/
def Record.ofDocument? (d : Yaml.Document) : Option Record := do
  let names := ["description", "info", "negative", "flags", "es5id", "esid", "es6id"]
  match ← d.fields? names d.root with
  | [description, info, negative, flags, es5id, esid, es6id] =>
    return {
      description? := ← d.absent? d.text? description
      info? := ← d.absent? d.text? info
      negative? := ← d.absent? (errorType? d) negative
      flags := ← match flags with
        | some flags => d.list? d.text? flags
        | none => some []
      es5id? := ← d.absent? d.text? es5id
      esid? := ← d.absent? d.text? esid
      es6id? := ← d.absent? d.text? es6id }
  | _ => none

/-- The record of a YAML text; without a document nothing is said. -/
def Record.ofYaml? (text : List Char) : Option Record := do
  match ← Yaml.Document.ofText? text with
  | some d => ofDocument? d
  | none => return {}

/-- The metadata that a record amounts to for the case at a path. -/
def Record.metadata (r : Record) (path : Path) : Except HeaderError Metadata :=
  match (r.es5id? <|> r.esid? <|> r.es6id?), path.stem?.bind Text.Utf8.text? with
  | none, _ => .error .missingSection
  | some _, none => .error .missingFileName
  | some reference, some name =>
    let flags := Text.setOf r.flags
    if contradictory flags then .error .exclusiveFlags
    else .ok
      { name, reference? := some reference, flags, dialect := .frontmatter
        assertion? := r.info?.map Text.trimmed
        description? := r.description?.map Text.trimmed
        expectation? := r.negative?.map fun type => .kind (Text.trimmed type) }

/-- The metadata of a header for the case at a path. -/
def parse (header : List Char) (path : Path) : Except HeaderError Metadata :=
  match yaml? header with
  | none => .error .unterminatedFrontmatter
  | some text =>
    match Record.ofYaml? text with
    | none => .error .badFrontmatter
    | some record => record.metadata path

end Conformance.Frontmatter
