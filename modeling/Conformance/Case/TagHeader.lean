import Conformance.Case.Metadata

/-!
# Tagged headers

A tagged header is a block comment. Each of its lines is freed of blanks and stars at its ends. A
line that starts with `@` opens a tag, whose name ends at a colon or a blank; any other line that is
not empty goes on with the value of the tag before it, after a blank. When all lines are read, each
value loses the semicolons at its end.

Of a tag given twice the last one counts, except that an expectation that cannot be read is an error
wherever it stands.
-/

namespace Conformance.TagHeader

/-- A tag and its value. -/
structure Tag where
  name : String
  value : List Char
  deriving DecidableEq, Repr

def endsName (c : Char) : Bool := c == ':' || Text.isBlank c

/-- A line of the comment without what decorates it. -/
def bare (line : List Char) : List Char :=
  Text.trim ((Text.trim line).dropWhile (· == '*'))

/-- The tag that a line opens, given without its `@`. -/
def Tag.ofLine (line : List Char) : Tag :=
  { name := String.ofList (line.takeWhile (!endsName ·))
    value := Text.trim ((line.dropWhile (!endsName ·)).dropWhile (· == ':')) }

/-- The tag with a line more. -/
def Tag.extend (t : Tag) (line : List Char) : Tag :=
  { t with value := if t.value.isEmpty then line else t.value ++ ' ' :: line }

/-- One line more; the tags so far are in reverse order. -/
def addLine (tags : List Tag) (line : List Char) : List Tag :=
  match bare line with
  | [] => tags
  | '@' :: rest => Tag.ofLine rest :: tags
  | text =>
    match tags with
    | [] => []
    | t :: before => t.extend text :: before

/-- The tags of the text between the comment's marks. -/
def tags (block : List Char) : List Tag :=
  ((Text.lines (block.dropWhile (· == '*'))).foldl addLine []).reverse

/-- A value without the semicolons at its end. -/
def Tag.text (t : Tag) : List Char :=
  Text.trim (Text.dropEndWhile (· == ';') (Text.trimEnd t.value))

/-- A letter, `_` or `$`. -/
def startsIdentifier (c : Char) : Bool := c.isAlpha || c == '_' || c == '$'

/-- The text is an ASCII identifier. -/
def isIdentifier : List Char → Bool
  | [] => false
  | c :: rest => startsIdentifier c && rest.all fun c => startsIdentifier c || c.isDigit

/-- The expectation that a value states. -/
def expectation (value : List Char) : Except HeaderError Expectation :=
  if value.isEmpty then .ok .anyError
  else if isIdentifier value then .ok (.kind (String.ofList value))
  else .error (.unsupportedNegative (String.ofList value))

/-- What the tags read so far say. -/
structure Fields where
  name? : Option String := none
  reference? : Option String := none
  assertion? : Option String := none
  description? : Option String := none
  expectation? : Option Expectation := none
  strict : Bool := false
  sloppy : Bool := false
  deriving DecidableEq, Repr

/-- One tag more. -/
def Fields.add (f : Fields) (t : Tag) : Except HeaderError Fields :=
  let text := if t.text.isEmpty then none else some (String.ofList t.text)
  match t.name with
  | "name" => .ok { f with name? := text }
  | "section" => .ok { f with reference? := text }
  | "assertion" => .ok { f with assertion? := text }
  | "description" => .ok { f with description? := text }
  | "negative" => (expectation t.text).map fun e => { f with expectation? := some e }
  | "onlyStrict" => .ok { f with strict := true }
  | "strict_only" => .ok { f with strict := true }
  | "noStrict" => .ok { f with sloppy := true }
  | _ => .ok f

/-- The metadata that the tags amount to. -/
def Fields.metadata (f : Fields) : Except HeaderError Metadata :=
  match f.name? with
  | none => .error .missingName
  | some name =>
    if f.strict && f.sloppy then .error .exclusiveTags
    else .ok
      { name, reference? := f.reference?, assertion? := f.assertion?, description? := f.description?
        expectation? := f.expectation?, dialect := .tagged
        flags := (if f.sloppy then [sloppyFlag] else []) ++
          (if f.strict then [strictFlag] else []) }

/-- The metadata of a list of tags. -/
def metadata (tags : List Tag) : Except HeaderError Metadata := do
  (← tags.foldlM Fields.add {}).metadata

/-- The metadata of a header, given after the opening mark of its comment. -/
def parse (text : List Char) : Except HeaderError Metadata :=
  match Text.breakOn ['*', '/'] text with
  | none => .error .unterminatedTags
  | some (block, _) => metadata (tags block)

end Conformance.TagHeader
