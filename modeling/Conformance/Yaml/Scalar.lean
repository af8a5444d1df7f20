import Conformance.Text.Digits
import Conformance.Yaml.Cursor

/-!
# Scalars

The text of plain, quoted and block scalars. Inside a flow scalar one line break between words
folds to a space and further breaks are kept; inside a block scalar the indentation decides where a
line starts, and the header says what becomes of the breaks at the end.
-/

namespace Conformance.Yaml

/-- What was read between two words of a flow scalar. -/
structure Gap where
  /-- The blanks, while no line has ended. -/
  blanks : List Char
  /-- A line has ended. -/
  broken : Bool
  /-- The first break. -/
  first : List Char
  /-- The breaks after it. -/
  more : List Char
  deriving Repr

namespace Gap

def none : Gap := ⟨[], false, [], []⟩

/-- A line ended by an escaped break, which stands for nothing. -/
def escaped : Gap := ⟨[], true, [], []⟩

/-- The text that the gap stands for. -/
def text (g : Gap) : List Char :=
  if !g.broken then g.blanks
  else if g.first == ['\n'] then (if g.more.isEmpty then [' '] else g.more)
  else g.first ++ g.more

end Gap

/-- The gap from here to the next word. A tab left of the column `floor` after a break is
refused. -/
def readGap (floor : Nat) : Nat → Gap → Cursor → Option (Gap × Cursor)
  | 0, g, c => some (g, c)
  | fuel + 1, g, c =>
    match c.head with
    | .none => some (g, c)
    | some ch =>
      if isGap ch then
        if g.broken && ch == '\t' && c.column < floor then .none
        else
          readGap floor fuel (if g.broken then g else { g with blanks := g.blanks ++ [ch] }) c.next
      else if isBreak ch then
        let (text, c) := c.nextLine
        readGap floor fuel
          (if g.broken then { g with more := g.more ++ text } else ⟨[], true, text, []⟩) c
      else some (g, c)

/-- The character of a one-letter escape. -/
def escape? : Char → Option Char
  | '0' => some '\x00'
  | 'a' => some '\x07'
  | 'b' => some '\x08'
  | 't' => some '\t'
  | '\t' => some '\t'
  | 'n' => some '\n'
  | 'v' => some '\x0b'
  | 'f' => some '\x0c'
  | 'r' => some '\r'
  | 'e' => some '\x1b'
  | ' ' => some ' '
  | '"' => some '"'
  | '/' => some '/'
  | '\\' => some '\\'
  | 'N' => some '\x85'
  | '_' => some '\xa0'
  | 'L' => some '\u2028'
  | 'P' => some '\u2029'
  | _ => none

/-- How many hexadecimal digits an escape takes. -/
def escapeDigits : Char → Nat
  | 'x' => 2
  | 'u' => 4
  | 'U' => 8
  | _ => 0

/-- The character of an escape after its backslash, and the place past it. -/
def readEscape (c : Cursor) : Option (Char × Cursor) := do
  let letter ← c.head
  match escapeDigits letter with
  | 0 => return (← escape? letter, c.next)
  | n =>
    let v ← Text.hexOf? n c.next.rest
    if (0xd800 ≤ v ∧ v ≤ 0xdfff) ∨ 0x10ffff < v then none
    else return (Char.ofNat v, c.next.skip n)

/-- A word of a quoted scalar: the text with the word added, what ended it, and the place there.
`text` is reversed. -/
def readQuotedWord (single : Bool) : Nat → List Char → Cursor → Option (List Char × Gap × Cursor)
  | 0, text, c => some (text, .none, c)
  | fuel + 1, text, c =>
    match c.head with
    | .none => some (text, .none, c)
    | some ch =>
      if isGap ch || isBreak ch then some (text, .none, c)
      else if single then
        if ch == '\'' then
          if c.peek 1 == some '\'' then readQuotedWord single fuel ('\'' :: text) (c.skip 2)
          else some (text, .none, c)
        else readQuotedWord single fuel (ch :: text) c.next
      else if ch == '"' then some (text, .none, c)
      else if ch == '\\' then
        match c.peek 1 with
        | some b =>
          if isBreak b then some (text, .escaped, c.next.nextLine.2)
          else match readEscape c.next with
            | some (e, c) => readQuotedWord single fuel (e :: text) c
            | .none => .none
        | .none => .none
      else readQuotedWord single fuel (ch :: text) c.next

/-- The rest of a quoted scalar whose opening quote was read. -/
def readQuoted (single : Bool) : Nat → List Char → Cursor → Option (List Char × Cursor)
  | 0, _, _ => none
  | fuel + 1, text, c =>
    if c.atMarker '-' || c.atMarker '.' || c.head.isNone then none
    else
      match readQuotedWord single c.left text c with
      | .none => .none
      | some (text, gap, c) =>
        if c.head == some (if single then '\'' else '"') then some (text.reverse, c.next)
        else
          match readGap 0 c.left gap c with
          | .none => .none
          | some (gap, c) => readQuoted single fuel (gap.text.reverse ++ text) c

/-- The character here ends a plain scalar. -/
def endsPlain (flow : Bool) (c : Cursor) : Bool :=
  match c.head with
  | none => true
  | some ch =>
    isGap ch || isBreak ch || (ch == ':' && endsWord (c.peek 1)) ||
      (flow && (ch == ',' || ch == '[' || ch == ']' || ch == '\x7b' || ch == '\x7d'))

/-- A colon that may not stand in a plain scalar inside a flow collection. -/
def badColon (flow : Bool) (c : Cursor) : Bool :=
  flow && c.head == some ':' &&
    match c.peek 1 with
    | some ch => ch == ',' || ch == '?' || ch == '[' || ch == ']' || ch == '\x7b' || ch == '\x7d'
    | none => false

/-- A word of a plain scalar, reversed. -/
def readPlainWord (flow : Bool) : Nat → List Char → Cursor → Option (List Char × Cursor)
  | 0, word, c => some (word, c)
  | fuel + 1, word, c =>
    if badColon flow c then none
    else if endsPlain flow c then some (word, c)
    else match c.head with
      | some ch => readPlainWord flow fuel (ch :: word) c.next
      | none => some (word, c)

/-- What was read of a plain scalar. -/
structure Plain where
  text : List Char
  /-- A line ended after the last word. -/
  broken : Bool
  deriving Repr

/-- The rest of a plain scalar. `text` is what was read of it, reversed, `gap` what stands after
that, and `floor` the column left of which the scalar ends in a block. -/
def readPlain (flow : Bool) (floor : Nat) :
    Nat → List Char → Gap → Cursor → Option (Plain × Cursor)
  | 0, text, gap, c => some (⟨text.reverse, gap.broken⟩, c)
  | fuel + 1, text, gap, c =>
    if c.atMarker '-' || c.atMarker '.' || c.head == some '#' then
      some (⟨text.reverse, gap.broken⟩, c)
    else
      match readPlainWord flow c.left [] c with
      | .none => .none
      | some (word, c) =>
        let (text, gap) := if word.isEmpty then (text, gap)
          else (word ++ gap.text.reverse ++ text, Gap.none)
        match c.head with
        | .none => some (⟨text.reverse, gap.broken⟩, c)
        | some ch =>
          if !(isGap ch || isBreak ch) then some (⟨text.reverse, gap.broken⟩, c)
          else
            match readGap floor c.left gap c with
            | .none => .none
            | some (gap, c) =>
              if !flow && c.column < floor then some (⟨text.reverse, gap.broken⟩, c)
              else readPlain flow floor fuel text gap c

/-- What becomes of the breaks at the end of a block scalar. -/
inductive Chomping where
  | clip
  | strip
  | keep
  deriving DecidableEq, Repr

/-- The sign of a block scalar's header. -/
def chomping? : Option Char → Option Chomping
  | some '+' => some .keep
  | some '-' => some .strip
  | _ => none

/-- The digit of a block scalar's header; zero is refused. -/
def increment? (c : Cursor) : Option (Option Nat × Cursor) :=
  match c.head with
  | some '0' => none
  | some d => if d.isDigit then some (some (d.val.toNat - 0x30), c.next) else some (none, c)
  | none => some (none, c)

/-- The header of a block scalar after its indicator: a sign and a digit, in either order. -/
def readBlockHeader (c : Cursor) : Option (Chomping × Option Nat × Cursor) :=
  match chomping? c.head with
  | some chomping => (increment? c.next).map fun (digit, c) => (chomping, digit, c)
  | none => (increment? c).map fun (digit, c) =>
    match digit, chomping? c.head with
    | some _, some chomping => (chomping, digit, c.next)
    | _, _ => (.clip, digit, c)

/-- The empty lines before the next line of a block scalar and the indentation of that line.
`indent` is the indentation of the scalar, zero while it is unknown; `widest` is the widest
indentation met. -/
def readBlankLines (indent : Nat) :
    Nat → Nat → List Char → Cursor → Option (Nat × List Char × Cursor)
  | 0, widest, breaks, c => some (widest, breaks, c)
  | fuel + 1, widest, breaks, c =>
    let spaces := (c.rest.takeWhile (· == ' ')).length
    let spaces := if indent = 0 then spaces else min spaces (indent - c.column)
    let c := c.skip spaces
    let widest := max widest c.column
    match c.head with
    | none => some (widest, breaks, c)
    | some ch =>
      if (indent = 0 || c.column < indent) && ch == '\t' then none
      else if isBreak ch then
        let (text, c) := c.nextLine
        readBlankLines indent fuel widest (breaks ++ text) c
      else some (widest, breaks, c)

/-- The lines of a block scalar. `text` is what was read, reversed; `last` the break after it,
`breaks` the empty lines after that, and `blank` says that the last line started with a blank. -/
def readBlockLines (literal : Bool) (indent : Nat) :
    Nat → List Char → Bool → List Char → List Char → Cursor →
      Option (List Char × List Char × List Char × Cursor)
  | 0, text, _, last, breaks, c => some (text, last, breaks, c)
  | fuel + 1, text, blank, last, breaks, c =>
    if c.column ≠ indent then some (text, last, breaks, c)
    else
      match c.head with
      | none => some (text, last, breaks, c)
      | some ch =>
        let nowBlank := isGap ch
        let join :=
          if !literal && last == ['\n'] && !blank && !nowBlank then
            (if breaks.isEmpty then [' '] else [])
          else last
        let (line, c) := c.takeWhile (!isBreak ·)
        let text := line.reverse ++ (join ++ breaks).reverse ++ text
        let (last, c) := if c.head.isNone then ([], c) else c.nextLine
        match readBlankLines indent (c.left + 1) 0 [] c with
        | none => none
        | some (_, breaks, c) => readBlockLines literal indent fuel text nowBlank last breaks c

/-- A block scalar after its indicator, in a block indented by `outer`. -/
def readBlock (literal : Bool) (outer : Int) (c : Cursor) : Option (List Char × Cursor) := do
  let (chomping, digit, c) ← readBlockHeader c
  let c := (c.takeWhile isGap).2
  let c := if c.head == some '#' then (c.takeWhile (!isBreak ·)).2 else c
  if !endsLine c.head then none
  let c := if c.head.isNone then c else c.nextLine.2
  let given := match digit with
    | some d => if 0 ≤ outer then outer.toNat + d else d
    | none => 0
  let (widest, breaks, c) ← readBlankLines given (c.left + 1) 0 [] c
  let indent := if given = 0 then max (max widest (outer + 1).toNat) 1 else given
  let (text, last, breaks, c) ← readBlockLines literal indent (c.left + 1) [] false [] breaks c
  let tail := match chomping with
    | .strip => []
    | .clip => last
    | .keep => last ++ breaks
  return (text.reverse ++ tail, c)

end Conformance.Yaml
