import Conformance.Pattern.CharClass

/-!
# Escapes of patterns

What a backslash in a pattern introduces: a character, a class, or a condition on the neighbours of
a place. Any ASCII character but letters, digits and angle brackets may be escaped to stand for
itself; a letter that has no meaning of its own is refused, and so are digits.
-/

namespace Conformance.Pattern

/-- What is left of a pattern, and what holds where it goes on. -/
structure Scan where
  rest : List Char
  flags : Flags
  /-- The names of groups so far. -/
  names : List String

/-- Reading a pattern, which may fail. -/
abbrev Read := StateT Scan Option

namespace Read

def peek : Read (Option Char) := return (← get).rest.head?

/-- The next character, which has to be there. -/
def need : Read Char := do
  match ← peek with
  | some c => return c
  | none => failure

def drop : Read Unit := modify fun s => { s with rest := s.rest.drop 1 }

/-- Past blanks and comments, where they do not count; `comment` says that one has started. -/
def gap (comment : Bool) : List Char → List Char
  | [] => []
  | c :: rest =>
    if comment then gap (c != '\n') rest
    else if c == '#' then gap true rest
    else if Text.isBlank c then gap false rest
    else c :: rest

/-- Past blanks and comments, if they do not count. -/
def space : Read Unit :=
  modify fun s => if s.flags.verbose then { s with rest := gap false s.rest } else s

/-- Past one character and what does not count after it. -/
def next : Read Unit := do drop; space

/-- Past `word`, if it comes next. -/
def skip? (word : List Char) : Read Bool := do
  let s ← get
  if word.isPrefixOf s.rest then
    set { s with rest := s.rest.drop word.length }
    return true
  else return false

end Read

open Read

/-- A condition on the neighbours of a place. -/
abbrev Boundary := Option Char → Option Char → Bool

namespace Boundary

def textStart : Boundary := fun before _ => before.isNone

def textEnd : Boundary := fun _ after => after.isNone

/-- The start of a line, or of the text unless lines are told apart. -/
def lineStart (f : Flags) : Boundary := fun before after =>
  before.isNone || (f.multiLine && (before == some '\n' ||
    (f.carriageReturn && before == some '\r' && after != some '\n')))

/-- The end of a line, or of the text unless lines are told apart. -/
def lineEnd (f : Flags) : Boundary := fun before after =>
  after.isNone || (f.multiLine &&
    if f.carriageReturn then after == some '\r' || (after == some '\n' && before != some '\r')
    else after == some '\n')

/-- A character of words. -/
def inWord (f : Flags) (c : Option Char) : Bool :=
  c.any fun c => if f.unicode then Unicode.isWord c else c.isAlphanum || c == '_'

/-- The condition that a name in braces after `\b` stands for. -/
def word? (f : Flags) : String → Option Boundary
  | "start" => some fun before after => !inWord f before && inWord f after
  | "end" => some fun before after => inWord f before && !inWord f after
  | "start-half" => some fun before _ => !inWord f before
  | "end-half" => some fun _ after => !inWord f after
  | _ => none

end Boundary

/-- What an escape stands for. -/
inductive Escaped where
  /-- A character; `octet` if it was given by two hexadecimal digits. -/
  | char (c : Char) (octet : Bool)
  | set (c : CharClass)
  | between (holds : Boundary)

def charOf? (n : Nat) : Option Char := if n.isValidChar then some (Char.ofNat n) else none

/-- The hexadecimal digits up to a closing brace, with their value. -/
def bracedDigits (n : Nat) (some? : Bool) : Nat → Read Nat
  | 0 => failure
  | fuel + 1 => do
    next
    let c ← need
    if c == '\x7d' then
      next
      if some? then return n else failure
    else
      match Text.digitBelow? 16 c with
      | some d => bracedDigits (n * 16 + d) true fuel
      | none => failure

/-- The value of `count` hexadecimal digits, the first of which comes next. -/
def fixedDigits (n : Nat) : Nat → Read Nat
  | 0 => return n
  | count + 1 => do
    match Text.digitBelow? 16 (← need) with
    | some d =>
      next
      fixedDigits (n * 16 + d) count
    | none => failure

/-- A character given by its number; its letter comes next. -/
def numbered (count : Nat) : Read Escaped := do
  next
  if (← need) == '\x7b' then
    let n ← bracedDigits 0 false ((← get).rest.length + 1)
    match charOf? n with
    | some c => return .char c false
    | none => failure
  else
    let n ← fixedDigits 0 count
    match charOf? n with
    | some c => return .char c (count == 2)
    | none => failure

/-- The characters up to a closing brace, the opening one coming next. -/
def bracedName (held : List Char) : Nat → Read (List Char)
  | 0 => failure
  | fuel + 1 => do
    next
    let c ← need
    if c == '\x7d' then
      drop
      return held.reverse
    else bracedName (c :: held) fuel

/-- The set that the name of a property stands for, and whether it is negated. -/
def propertySet (name : List Char) : Option Unicode.CharSet × Bool :=
  match Text.breakOn ['!', '='] name with
  | some (property, value) => (Unicode.Property.withValue? property value, true)
  | none =>
    match (Text.breakOn [':'] name).or (Text.breakOn ['='] name) with
    | some (property, value) => (Unicode.Property.withValue? property value, false)
    | none => (Unicode.Property.find? name, false)

/-- The class of a property; its letter comes next. -/
def property (negated : Bool) : Read Escaped := do
  next
  let c ← need
  let name ←
    if c == '\x7b' then bracedName [] ((← get).rest.length + 1)
    else if c == '\\' then failure
    else do next; pure [c]
  let (set, inverted) := propertySet name
  match CharClass.property? (← get).flags set (negated != inverted) with
  | some c => return .set c
  | none => failure

/-- A name in braces made of letters and hyphens, the first of which comes next. -/
def boundaryName (held : List Char) : Nat → Read String
  | 0 => failure
  | fuel + 1 => do
    let c ← need
    if c == '\x7d' then
      drop
      return String.ofList held.reverse
    else if c.isAlpha || c == '-' then
      next
      boundaryName (c :: held) fuel
    else failure

/-- The boundary of words, or a kind of it named in braces; other braces are left alone. -/
def wordBoundary : Read Escaped := do
  let s ← get
  let f := s.flags
  let plain := Escaped.between fun before after =>
    Boundary.inWord f before != Boundary.inWord f after
  if s.rest.head? == some '\x7b' then
    next
    let c ← need
    if c.isAlpha || c == '-' then
      match Boundary.word? f (← boundaryName [] ((← get).rest.length + 1)) with
      | some holds => return .between holds
      | none => failure
    else
      set s
      return plain
  else return plain

/-- An ASCII character that is neither a letter nor a digit nor an angle bracket. -/
def isEscapable (c : Char) : Bool :=
  c.val < 0x80 && !c.isAlphanum && c != '<' && c != '>'

/-- The character that a letter stands for. -/
def letter? : Char → Option Char
  | 'a' => some '\x07'
  | 'f' => some '\x0c'
  | 't' => some '\t'
  | 'n' => some '\n'
  | 'r' => some '\r'
  | 'v' => some '\x0b'
  | _ => none

/-- The boundary that a letter or angle bracket stands for. -/
def boundary? (f : Flags) : Char → Option Boundary
  | 'A' => some Boundary.textStart
  | 'z' => some Boundary.textEnd
  | 'B' => some fun before after => Boundary.inWord f before == Boundary.inWord f after
  | '<' => Boundary.word? f "start"
  | '>' => Boundary.word? f "end"
  | _ => none

/-- An escape; its backslash comes next. -/
def escape : Read Escaped := do
  drop
  let c ← need
  let f := (← get).flags
  match c with
  | 'x' => numbered 2
  | 'u' => numbered 4
  | 'U' => numbered 8
  | 'p' => property false
  | 'P' => property true
  | 'b' => do drop; wordBoundary
  | _ =>
    drop
    if isEscapable c then return .char c false
    match letter? c, boundary? f c, CharClass.letter? f c.toLower c.isUpper with
    | some c, _, _ => return .char c false
    | none, some holds, _ => return .between holds
    | none, none, some set => return .set set
    | none, none, none => failure

end Conformance.Pattern
