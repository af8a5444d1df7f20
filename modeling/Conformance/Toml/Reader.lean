import Conformance.Toml.Bare
import Conformance.Toml.Quoted

/-!
# Reading TOML

A document is read line by line into statements, and the statements are then put together. Arrays
may run over lines and hold comments, tables in braces may not. The number of arrays and tables
inside each other is limited, and the descent counts down from that limit; the loops count down from
the number of characters.
-/

namespace Conformance.Toml

/-- Reading from the start of a text, which may fail. -/
abbrev Reader := StateT (List Char) Option

namespace Reader

/-- Arrays, tables in braces and the parts of a key are fewer than this. -/
def nestingLimit : Nat := 80

def isWord (c : Char) : Bool := c.isAlphanum || c == '-' || c == '_'

/-- Past `c`, if it comes next. -/
def skip? (c : Char) : Reader Bool := do
  match ← get with
  | d :: rest => if c = d then set rest; return true else return false
  | [] => return false

def expect (c : Char) : Reader Unit := do if !(← skip? c) then failure

def blanks : Reader Unit := modify (·.dropWhile fun c => c == ' ' || c == '\t')

def comment : Reader Unit := do if ← skip? '#' then modify (·.dropWhile isPlain)

/-- Past a line break, if one comes next. -/
def lineBreak? : Reader Bool := do
  match ← get with
  | '\n' :: rest => set rest; return true
  | '\r' :: '\n' :: rest => set rest; return true
  | _ => return false

/-- Past the rest of a line that has nothing more to say. -/
def lineEnd : Reader Unit := do
  blanks
  comment
  if !(← lineBreak?) && !(← get).isEmpty then failure

/-- Past blanks, comments and line breaks. -/
def gap : Nat → Reader Unit
  | 0 => failure
  | fuel + 1 => do
    blanks
    comment
    if ← lineBreak? then gap fuel

/-- A part of a key. -/
def keyPart : Reader String := do
  let text ← get
  match Quoted.line? text with
  | some (part, rest) => set rest; return String.ofList part
  | none =>
    let part := text.takeWhile isWord
    if part.isEmpty then failure
    set (text.drop part.length)
    return String.ofList part

/-- The parts of a dotted key. -/
def keyParts : Nat → Reader (List String)
  | 0 => failure
  | fuel + 1 => do
    blanks
    let part ← keyPart
    blanks
    if ← skip? '.' then return part :: (← keyParts fuel) else return [part]

def key : Reader (List String) := keyParts (nestingLimit - 1)

/-- The items of an array, up to its closing bracket. -/
def items (item : Reader Value) : Nat → Reader (List Value)
  | 0 => failure
  | fuel + 1 => do
    gap ((← get).length + 1)
    if ← skip? ']' then return []
    let value ← item
    gap ((← get).length + 1)
    if ← skip? ',' then return value :: (← items item fuel)
    expect ']'
    return [value]

/-- The pairs of a table in braces, up to its closing brace. -/
def pairs (item : Reader Value) : Nat → Reader (List (List String × Value))
  | 0 => failure
  | fuel + 1 => do
    let key ← key
    expect '='
    blanks
    let value ← item
    blanks
    if ← skip? ',' then return (key, value) :: (← pairs item fuel)
    expect '\x7d'
    return [(key, value)]

/-- A value that holds no values. -/
def simple : Reader Value := do
  let text ← get
  match Quoted.string? text with
  | some (s, rest) => set rest; return .text (String.ofList s)
  | none =>
    let (word, rest) := Bare.take text
    set rest
    (Bare.value? word : Option Value)

/-- A value with at most `depth` arrays and tables inside each other. -/
def value : Nat → Reader Value
  | 0 => simple
  | depth + 1 => do
    if ← skip? '[' then return .array (← items (value depth) ((← get).length + 1))
    else if ← skip? '\x7b' then
      blanks
      if ← skip? '\x7d' then return .table .closed []
      let pairs ← pairs (value depth) ((← get).length + 1)
      (Value.ofPairs? pairs : Option Value)
    else simple

/-- A statement. -/
def statement : Reader Statement := do
  if ← skip? '[' then
    if ← skip? '[' then
      let key ← key
      expect ']'
      expect ']'
      lineEnd
      return .item key
    else
      let key ← key
      expect ']'
      lineEnd
      return .header key
  else
    let key ← key
    expect '='
    blanks
    let value ← value (nestingLimit - 1)
    lineEnd
    return .pair key value

/-- The statements up to the end of the text. -/
def statements : Nat → Reader (List Statement)
  | 0 => failure
  | fuel + 1 => do
    gap ((← get).length + 1)
    if (← get).isEmpty then return []
    return (← statement) :: (← statements fuel)

end Reader

/-- The entries of a document, which may start with a byte order mark. -/
def read? (text : List Char) : Option Entries :=
  let text := match text with
    | '\ufeff' :: rest => rest
    | _ => text
  ((Reader.statements (text.length + 1)).run text).bind fun (statements, _) =>
    Entries.ofStatements? statements

end Conformance.Toml
