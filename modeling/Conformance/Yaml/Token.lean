import Conformance.Text.Utf8
import Conformance.Yaml.Scalar

/-!
# YAML tokens

The text is cut into tokens one at a time. Three things are remembered between tokens. The columns
of the open blocks: a token further left closes the blocks right of it. For each open flow
collection and for the block around them, the last place where a simple key may have started: a
colon turns what was read from there into a key, by putting tokens in at that place. And whether a
simple key may start here at all.

A place for a simple key goes stale when its line ends or after 1024 characters. In a block, what
starts at the block's own column has to become a key.
-/

namespace Conformance.Yaml

/-- A token of a YAML stream. -/
inductive Token where
  | versionDirective (major minor : Nat)
  | tagDirective (handle target : String)
  | documentStart
  | documentEnd
  | streamEnd
  | blockSequenceStart
  | blockMappingStart
  | blockEnd
  | flowSequenceStart
  | flowSequenceEnd
  | flowMappingStart
  | flowMappingEnd
  | blockEntry
  | flowEntry
  | key
  | value
  | alias (name : String)
  | anchor (name : String)
  | tag (handle suffix : String)
  | scalar (plain : Bool) (text : String)
  deriving DecidableEq, Repr

/-- A place where a simple key may have started. -/
structure Candidate where
  /-- It has to become a key. -/
  required : Bool
  /-- The number of tokens before it. -/
  position : Nat
  index : Nat
  line : Nat
  column : Nat
  deriving Repr

/-- What is remembered between tokens. -/
structure Scanner where
  cursor : Cursor
  /-- The column of the innermost open block, -1 outside of all. -/
  indent : Int
  /-- The columns of the blocks around it. -/
  outer : List Int
  keyAllowed : Bool
  /-- The candidate of the block. -/
  candidate : Option Candidate
  /-- The candidates around the innermost open flow collection, one for each open collection. -/
  suspended : List (Option Candidate)
  /-- The tokens so far, last first. -/
  tokens : List Token
  deriving Repr

namespace Scanner

/-- Before the first token. -/
def start (text : List Char) : Scanner :=
  { cursor := .start text, indent := -1, outer := [], keyAllowed := true, candidate := none,
    suspended := [], tokens := [] }

/-- Inside a flow collection. -/
def inFlow (s : Scanner) : Bool := !s.suspended.isEmpty

/-- With a token more. -/
def emit (s : Scanner) (t : Token) : Scanner := { s with tokens := t :: s.tokens }

/-- With a token put in so that `position` tokens stand before it. -/
def insert (s : Scanner) (position : Nat) (t : Token) : Scanner :=
  let later := s.tokens.length - position
  { s with tokens := s.tokens.take later ++ t :: s.tokens.drop later }

/-- With a token for the next `n` characters. -/
def advance (s : Scanner) (n : Nat) (t : Token) : Scanner :=
  { s with cursor := s.cursor.skip n, tokens := t :: s.tokens }

/-- Blanks, comments and line ends before the next token. -/
def skipGaps : Nat → Scanner → Scanner
  | 0, s => s
  | fuel + 1, s =>
    let c := s.cursor
    let c := if c.index = 0 ∧ c.head = some '\ufeff' then c.next else c
    let tabs := s.inFlow || !s.keyAllowed
    let c := (c.takeWhile fun ch => ch == ' ' || (tabs && ch == '\t')).2
    let c := if c.head == some '#' then (c.takeWhile (!isBreak ·)).2 else c
    match c.head with
    | some ch =>
      if isBreak ch then
        skipGaps fuel { s with cursor := c.nextLine.2, keyAllowed := s.keyAllowed || !s.inFlow }
      else { s with cursor := c }
    | none => { s with cursor := c }

/-- Closes the blocks right of `column`. -/
def unroll (column : Int) : List Int → Scanner → Scanner
  | [], s => s
  | around :: outer, s =>
    if column < s.indent then
      unroll column outer
        { s with indent := around, outer := outer, tokens := .blockEnd :: s.tokens }
    else s

/-- `unroll` outside of flow collections. -/
def closeBlocks (s : Scanner) (column : Int) : Scanner :=
  if s.inFlow then s else unroll column s.outer s

/-- Opens a block at `column` if it is right of the innermost one; the token that opens it goes to
`position`. -/
def openBlock (s : Scanner) (column : Nat) (position : Nat) (t : Token) : Scanner :=
  if s.inFlow || (column : Int) ≤ s.indent then s
  else ({ s with indent := column, outer := s.indent :: s.outer } : Scanner).insert position t

/-- A candidate that is gone without having become a key. -/
def stale (c : Candidate) (cursor : Cursor) : Bool :=
  c.line < cursor.line || c.index + 1024 < cursor.index

/-- Drops stale candidates; none of them may be required. -/
def dropStale (s : Scanner) : Option Scanner := do
  let check (candidate : Option Candidate) : Option (Option Candidate) :=
    match candidate with
    | none => some none
    | some c =>
      if stale c s.cursor then (if c.required then none else some none) else some (some c)
  return { s with candidate := ← check s.candidate, suspended := ← s.suspended.mapM check }

/-- Drops the candidate; it may not be required. -/
def dropCandidate (s : Scanner) : Option Scanner :=
  if s.candidate.any (·.required) then none else some { s with candidate := none }

/-- A simple key may start here. -/
def saveCandidate (s : Scanner) : Option Scanner :=
  if s.keyAllowed then do
    let required := !s.inFlow && s.indent == (s.cursor.column : Int)
    let s ← s.dropCandidate
    let c := s.cursor
    return { s with candidate := some ⟨required, s.tokens.length, c.index, c.line, c.column⟩ }
  else some s

/-- What every token does that ends all blocks. -/
def leaveBlocks (s : Scanner) : Option Scanner := do
  let s ← (s.closeBlocks (-1)).dropCandidate
  return { s with keyAllowed := false }

/-- The end of the text. -/
def streamEnd (s : Scanner) : Option Scanner := do
  return (← s.leaveBlocks).emit .streamEnd

/-- A document marker. -/
def document (s : Scanner) (t : Token) : Option Scanner := do
  return (← s.leaveBlocks).advance 3 t

/-- The opening bracket of a flow collection. -/
def openFlow (s : Scanner) (t : Token) : Option Scanner := do
  let s ← s.saveCandidate
  return { (s.advance 1 t) with
    candidate := none, suspended := s.candidate :: s.suspended, keyAllowed := true }

/-- The closing bracket of a flow collection. -/
def closeFlow (s : Scanner) (t : Token) : Option Scanner := do
  let s ← s.dropCandidate
  let s := match s.suspended with
    | candidate :: suspended => { s with candidate, suspended }
    | [] => s
  return { (s.advance 1 t) with keyAllowed := false }

/-- A comma. -/
def flowEntry (s : Scanner) : Option Scanner := do
  return { ((← s.dropCandidate).advance 1 .flowEntry) with keyAllowed := true }

/-- A dash. -/
def blockEntry (s : Scanner) : Option Scanner := do
  if !s.inFlow && !s.keyAllowed then none
  let s ← (s.openBlock s.cursor.column s.tokens.length .blockSequenceStart).dropCandidate
  return { (s.advance 1 .blockEntry) with keyAllowed := true }

/-- A question mark. -/
def explicitKey (s : Scanner) : Option Scanner := do
  if !s.inFlow && !s.keyAllowed then none
  let s ← (s.openBlock s.cursor.column s.tokens.length .blockMappingStart).dropCandidate
  return { (s.advance 1 .key) with keyAllowed := !s.inFlow }

/-- A colon: the candidate becomes a key. -/
def keyValue (s : Scanner) : Option Scanner :=
  match s.candidate with
  | some c =>
    let s := ({ s with candidate := none } : Scanner).insert c.position .key
    let s := s.openBlock c.column c.position .blockMappingStart
    some { (s.advance 1 .value) with keyAllowed := false }
  | none => do
    if !s.inFlow && !s.keyAllowed then none
    let s := s.openBlock s.cursor.column s.tokens.length .blockMappingStart
    return { (s.advance 1 .value) with keyAllowed := !s.inFlow }

/-- The indicator of an anchor or alias and its name. -/
def anchorLike (s : Scanner) (make : String → Token) : Option Scanner := do
  let s ← s.saveCandidate
  let (name, c) := s.cursor.next.takeWhile isWord
  let closed := endsWord c.head ||
    c.head.any fun ch => ['?', ':', ',', ']', '\x7d', '%', '@', '\x60'].contains ch
  if name.isEmpty || !closed then none
  return { s with
    cursor := c, keyAllowed := false, tokens := make (String.ofList name) :: s.tokens }

/-- A character of a tag; the flow indicators only in a verbatim one. -/
def isTagChar (verbatim : Bool) (c : Char) : Bool :=
  isWord c || [';', '/', '?', ':', '@', '&', '=', '+', '$', '.', '!', '~', '*', '\'', '(', ')',
    '%'].contains c || (verbatim && [',', '[', ']'].contains c)

/-- How many octets an escaped character has, by its first. -/
def escapedWidth (octet : Nat) : Nat :=
  if octet < 0x80 then 1
  else if 0xc0 ≤ octet ∧ octet < 0xe0 then 2
  else if 0xe0 ≤ octet ∧ octet < 0xf0 then 3
  else if 0xf0 ≤ octet ∧ octet < 0xf8 then 4
  else 0

/-- The octets of a tag's text, where a percent sign starts an escaped octet. The escaped octets
have to make up characters; `owed` octets of one are still owed. -/
def tagOctets? (owed : Nat) : List Char → Option (List UInt8)
  | '%' :: a :: b :: rest => do
    let octet ← Text.number? 16 [a, b]
    if owed = 0 then
      match escapedWidth octet with
      | 0 => none
      | width + 1 => return octet.toUInt8 :: (← tagOctets? width rest)
    else if 0x80 ≤ octet ∧ octet < 0xc0 then
      return octet.toUInt8 :: (← tagOctets? (owed - 1) rest)
    else none
  | '%' :: _ => none
  | c :: rest =>
    if owed = 0 then (tagOctets? 0 rest).map (Text.Utf8.encodeChar c ++ ·) else none
  | [] => if owed = 0 then some [] else none

/-- The text of a tag from here on, and the place past it. -/
def tagText (verbatim : Bool) (c : Cursor) : Option (List Char × Cursor) :=
  let (text, c) := c.takeWhile (isTagChar verbatim)
  (tagOctets? 0 text).map fun octets => (Text.Utf8.lossy octets, c)

/-- A handle of a tag: an exclamation mark, or a word between two of them. -/
def tagHandle (c : Cursor) : Option (List Char × Cursor) :=
  if c.head == some '!' then
    let (word, c) := c.next.takeWhile isWord
    if c.head == some '!' then some ('!' :: word ++ ['!'], c.next) else some ('!' :: word, c)
  else none

/-- The handle and suffix of a tag. -/
def tagParts (c : Cursor) : Option (List Char × List Char × Cursor) :=
  if c.peek 1 == some '<' then do
    let (suffix, c) ← tagText true (c.skip 2)
    if suffix.isEmpty || c.head != some '>' then none
    return ([], suffix, c.next)
  else do
    let (handle, c) ← tagHandle c
    let (text, c) ← tagText false c
    if handle.length > 1 && handle.getLast? == some '!' then
      if text.isEmpty then none
      return (handle, text, c)
    else
      let suffix := handle.tail ++ text
      if suffix.isEmpty then return ([], ['!'], c) else return (['!'], suffix, c)

/-- A tag. -/
def tagged (s : Scanner) : Option Scanner := do
  let s ← s.saveCandidate
  let (handle, suffix, c) ← tagParts s.cursor
  if !(endsWord c.head || (s.inFlow && c.head == some ',')) then none
  let t := Token.tag (String.ofList handle) (String.ofList suffix)
  return { s with cursor := c, keyAllowed := false, tokens := t :: s.tokens }

/-- A block scalar. -/
def blockScalar (s : Scanner) (literal : Bool) : Option Scanner := do
  let s ← s.dropCandidate
  let (text, c) ← readBlock literal s.indent s.cursor.next
  let t := Token.scalar false (String.ofList text)
  return { s with cursor := c, keyAllowed := true, tokens := t :: s.tokens }

/-- A quoted scalar. -/
def quotedScalar (s : Scanner) (single : Bool) : Option Scanner := do
  let s ← s.saveCandidate
  let (text, c) ← readQuoted single (s.cursor.left + 1) [] s.cursor.next
  let t := Token.scalar false (String.ofList text)
  return { s with cursor := c, keyAllowed := false, tokens := t :: s.tokens }

/-- A plain scalar; a line end after it lets a key start. -/
def plainScalar (s : Scanner) : Option Scanner := do
  let s ← s.saveCandidate
  let (plain, c) ←
    readPlain s.inFlow (s.indent + 1).toNat (s.cursor.left + 1) [] Gap.none s.cursor
  let t := Token.scalar true (String.ofList plain.text)
  return { s with cursor := c, keyAllowed := plain.broken, tokens := t :: s.tokens }

/-- A number of a version, of at most nine digits. -/
def versionNumber (c : Cursor) : Option (Nat × Cursor) :=
  let (digits, c) := c.takeWhile Char.isDigit
  if digits.isEmpty || 9 < digits.length then none
  else some (digits.foldl (fun n d => n * 10 + (d.val.toNat - 0x30)) 0, c)

/-- The value of a directive of the given name. -/
def directiveValue (name : List Char) (c : Cursor) : Option (Token × Cursor) :=
  if name == ['Y', 'A', 'M', 'L'] then do
    let (major, c) ← versionNumber (c.takeWhile isGap).2
    if c.head != some '.' then none
    let (minor, c) ← versionNumber c.next
    return (.versionDirective major minor, c)
  else if name == ['T', 'A', 'G'] then do
    let (handle, c) ← tagHandle (c.takeWhile isGap).2
    if handle.length > 1 && handle.getLast? != some '!' then none
    if !c.head.any isGap then none
    let (target, c) ← tagText true (c.takeWhile isGap).2
    if target.isEmpty || !endsWord c.head then none
    return (.tagDirective (String.ofList handle) (String.ofList target), c)
  else none

/-- A directive, to the end of its line. -/
def directive (s : Scanner) : Option Scanner := do
  let s ← s.leaveBlocks
  let (name, c) := s.cursor.next.takeWhile isWord
  if name.isEmpty || !endsWord c.head then none
  let (t, c) ← directiveValue name c
  let c := (c.takeWhile isGap).2
  let c := if c.head == some '#' then (c.takeWhile (!isBreak ·)).2 else c
  if !endsLine c.head then none
  let c := if c.head.isNone then c else c.nextLine.2
  return { s with cursor := c, tokens := t :: s.tokens }

/-- A character that may not start a plain scalar by itself. -/
def isIndicator (c : Char) : Bool :=
  ['-', '?', ':', ',', '[', ']', '\x7b', '\x7d', '#', '&', '*', '!', '|', '>', '\'', '"', '%',
    '@', '\x60'].contains c

/-- The token that starts with `ch`. -/
def fetchAt (s : Scanner) (ch : Char) : Option Scanner :=
  let c := s.cursor
  let wordEnds := endsWord (c.peek 1)
  if c.column = 0 ∧ ch = '%' then s.directive
  else if c.atMarker '-' then s.document .documentStart
  else if c.atMarker '.' then s.document .documentEnd
  else if ch = '[' then s.openFlow .flowSequenceStart
  else if ch = '\x7b' then s.openFlow .flowMappingStart
  else if ch = ']' then s.closeFlow .flowSequenceEnd
  else if ch = '\x7d' then s.closeFlow .flowMappingEnd
  else if ch = ',' then s.flowEntry
  else if ch = '-' ∧ wordEnds then s.blockEntry
  else if ch = '?' ∧ (s.inFlow ∨ wordEnds) then s.explicitKey
  else if ch = ':' ∧ (s.inFlow ∨ wordEnds) then s.keyValue
  else if ch = '*' then s.anchorLike .alias
  else if ch = '&' then s.anchorLike .anchor
  else if ch = '!' then s.tagged
  else if ch = '|' ∧ !s.inFlow then s.blockScalar true
  else if ch = '>' ∧ !s.inFlow then s.blockScalar false
  else if ch = '\'' then s.quotedScalar true
  else if ch = '"' then s.quotedScalar false
  else if (!isIndicator ch && !isGap ch) || (ch == '-' && !(c.peek 1).any isGap) ||
      (!s.inFlow && (ch == '?' || ch == ':') && !wordEnds) then s.plainScalar
  else none

/-- The next token, and whether there are more. -/
def fetch (s : Scanner) : Option (Scanner × Bool) := do
  let s ← (skipGaps (s.cursor.left + 1) s).dropStale
  let s := s.closeBlocks s.cursor.column
  match s.cursor.head with
  | none => return (← s.streamEnd, false)
  | some ch => return (← s.fetchAt ch, true)

/-- All tokens from here on; every token but the last reads a character. -/
def run : Nat → Scanner → Option (List Token)
  | 0, _ => none
  | fuel + 1, s =>
    match s.fetch with
    | none => none
    | some (s, false) => some s.tokens.reverse
    | some (s, true) => run fuel s

end Scanner

/-- The tokens of a text. -/
def Token.ofText? (text : List Char) : Option (List Token) :=
  if text.all isPrintable then Scanner.run (text.length + 1) (.start text) else none

end Conformance.Yaml
