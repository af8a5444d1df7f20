import Conformance.Pattern.Escape

/-!
# Reading patterns

A recursive descent over the spelling of a pattern. Flags hold from where they are set to the end of
their group. Look-around and references to groups are not part of the language. A pattern is refused
when it is nested too deep or would be too large when compiled.
-/

namespace Conformance.Pattern

open Read

/-- Parts of patterns may be nested this deep. -/
def nestingLimit : Nat := 250

/-- A part of a pattern. -/
structure Piece where
  pattern : Pattern
  depth : Nat
  /-- It may be repeated, which flags may not. -/
  repeatable : Bool

namespace Piece

/-- The pieces one after the other. -/
def sequence : List Piece → Piece
  | [] => ⟨.empty, 0, true⟩
  | [piece] => piece
  | pieces =>
    ⟨pieces.foldr (fun p rest => .sequence p.pattern rest) .empty,
      (pieces.map (·.depth)).foldl max 0 + 1, true⟩

/-- The pieces as alternatives. -/
def either : List Piece → Piece
  | [] => ⟨.empty, 0, true⟩
  | [piece] => piece
  | piece :: pieces =>
    ⟨pieces.foldl (fun first p => .either first p.pattern) piece.pattern,
      ((piece :: pieces).map (·.depth)).foldl max 0 + 1, true⟩

end Piece

/-- The set of the characters that a single one stands for. -/
def literal (f : Flags) (c : Char) : Pattern :=
  .chars c.utf8Size (CharClass.fold f (· == c))

/-- An item of a class that is a single character or a class of its own. -/
inductive ClassItem where
  | char (c : Char)
  | set (c : CharClass)

/-- The class item of an escape. -/
def ClassItem.ofEscaped? (f : Flags) : Escaped → Option ClassItem
  | .char c octet => if f.unicode || octet || c.val < 0x80 then some (.char c) else none
  | .set c => some (.set c)
  | .between _ => none

/-- A single item of a class. -/
def classItem : Read ClassItem := do
  let c ← need
  let f := (← get).flags
  let escaped ← if c == '\\' then escape else do drop; pure (.char c false)
  (ClassItem.ofEscaped? f escaped : Option ClassItem)

/-- What follows the next character, without what does not count. -/
def peekSecond : Read (Option Char) := do
  let s ← get
  let rest := s.rest.drop 1
  return (if s.flags.verbose then gap false rest else rest).head?

/-- An item of a class, or a range of characters. -/
def classRange : Read CharClass := do
  let first ← classItem
  space
  let c ← need
  let second ← peekSecond
  if c == '-' && second != some ']' && second != some '-' then
    next
    let _ ← need
    match first, ← classItem with
    | .char a, .char b => if a ≤ b then return .range a b else failure
    | _, _ => failure
  else
    match first with
    | .char a => return .single a
    | .set c => return c

/-- The set that a name between colons in brackets stands for, whether it is negated, and what
follows it. -/
def colonSet? (text : List Char) : Option (Unicode.CharSet × Bool × List Char) :=
  match text with
  | '[' :: ':' :: rest =>
    let (negated, rest) := match rest with
      | '^' :: rest => (true, rest)
      | _ => (false, rest)
    let name := rest.takeWhile (· != ':')
    match rest.drop name.length with
    | ':' :: ']' :: rest => (CharClass.ascii? (String.ofList name)).map (·, negated, rest)
    | _ => none
  | _ => none

/-- The hyphens at the start of a class. -/
def leadingHyphens (held : List CharClass) : Nat → Read (List CharClass)
  | 0 => failure
  | fuel + 1 => do
    if (← need) == '-' then
      next
      leadingHyphens (.single '-' :: held) fuel
    else return held

/-- The items so far, after the operation that is pending. -/
def settle (f : Flags) (pending : Option (CharClass × CharClass.Operation))
    (items : List CharClass) : CharClass :=
  match pending with
  | none => .union items.reverse
  | some (first, op) => .combine f op first (.union items.reverse)

/-- The operation that comes next. -/
def operation? : List Char → Option CharClass.Operation
  | '&' :: '&' :: _ => some .intersection
  | '-' :: '-' :: _ => some .difference
  | '~' :: '~' :: _ => some .symmetricDifference
  | _ => none

mutual

/-- A class in brackets, the opening one coming next. -/
def bracketed : Nat → Read CharClass
  | 0 => failure
  | fuel + 1 => do
    next
    let negated := (← need) == '^'
    if negated then next
    let hyphens ← leadingHyphens [] ((← get).rest.length + 1)
    let items ←
      if hyphens.isEmpty && (← need) == ']' then do next; pure [CharClass.single ']']
      else pure hyphens
    let _ ← need
    let inner ← classItems none items fuel
    match CharClass.finish? (← get).flags negated inner with
    | some c => return { c with depth := c.depth + 1 }
    | none => failure

/-- The items of a class up to its closing bracket; those read so far are in reverse order. -/
def classItems (pending : Option (CharClass × CharClass.Operation)) (items : List CharClass) :
    Nat → Read CharClass
  | 0 => failure
  | fuel + 1 => do
    space
    let c ← need
    let s ← get
    match c, colonSet? s.rest, operation? s.rest with
    | ']', _, _ =>
      drop
      return settle s.flags pending items
    | '[', some (named, negated, rest), _ =>
      set { s with rest }
      match CharClass.finish? s.flags negated ⟨named, 4, 0⟩ with
      | some item => classItems pending (item :: items) fuel
      | none => failure
    | '[', none, _ =>
      let item ← bracketed fuel
      classItems pending (item :: items) fuel
    | _, _, some op =>
      drop
      drop
      classItems (some (settle s.flags pending items, op)) [] fuel
    | _, _, none =>
      let item ← classRange
      classItems pending (item :: items) fuel

end

/-- A decimal number below `2 ^ 32`, with blanks around it. -/
def decimal : Read Nat := do
  modify fun s => { s with rest := Text.trimStart s.rest }
  let digits ← digitsFrom [] ((← get).rest.length + 1)
  modify fun s => { s with rest := Text.trimStart s.rest }
  space
  let n := Text.decimal digits
  if digits.isEmpty || Nat.pow 2 32 ≤ n then failure else return n
where
  /-- The digits that come next. -/
  digitsFrom (held : List Char) : Nat → Read (List Char)
    | 0 => failure
    | fuel + 1 => do
      match ← peek with
      | some c =>
        if c.isDigit then
          next
          digitsFrom (c :: held) fuel
        else return held.reverse
      | none => return held.reverse

/-- The limits of a repetition in braces, the opening one coming next. -/
def limits : Read (Nat × Option Nat) := do
  next
  let _ ← need
  let least ← decimal
  let most ←
    if (← need) == ',' then do
      next
      if (← need) == '\x7d' then pure none else some <$> decimal
    else pure (some least)
  if (← need) != '\x7d' then failure
  next
  if most.any (· < least) then failure
  return (least, most)

/-- The pieces with the last one, which is the first of the list, repeated. -/
def repeatLast (least : Nat) (most : Option Nat) : List Piece → Read (List Piece)
  | [] => failure
  | piece :: held => do
    if !piece.repeatable then failure
    let _ ← skip? ['?']
    return ⟨.repeated least most piece.pattern, piece.depth + 1, true⟩ :: held

/-- A character of the names of groups. -/
def isNamePart (first : Bool) (c : Char) : Bool :=
  c == '_' || Unicode.isAlphabetic c ||
    (!first && (c == '.' || c == '[' || c == ']' || Unicode.isNumeric c))

/-- A name up to its closing angle bracket. -/
def groupName : Read Unit := do
  let s ← get
  let name := s.rest.takeWhile (· != '>')
  match name with
  | [] => failure
  | c :: rest =>
    let text := String.ofList name
    if !isNamePart true c || !rest.all (isNamePart false) || s.names.contains text then failure
    set { s with rest := s.rest.drop name.length, names := text :: s.names }
    if !(← skip? ['>']) then failure

/-- The flags with one of them set. -/
def Flags.set? (f : Flags) (name : Char) (on : Bool) : Option Flags :=
  match name with
  | 'i' => some { f with caseless := on }
  | 'm' => some { f with multiLine := on }
  | 's' => some { f with dotAll := on }
  | 'U' => some f
  | 'u' => some { f with unicode := on }
  | 'x' => some { f with verbose := on }
  | 'R' => some { f with carriageReturn := on }
  | _ => none

/-- The flags up to a colon or a closing parenthesis, applied; `seen` are the characters so far,
latest first. -/
def flagsFrom (f : Flags) (seen : List Char) : Nat → Read (Flags × List Char)
  | 0 => failure
  | fuel + 1 => do
    let c ← need
    if c == ':' || c == ')' then
      if seen.head? == some '-' then failure else return (f, seen)
    else if seen.contains c then failure
    else
      drop
      if c == '-' then flagsFrom f (c :: seen) fuel
      else
        match f.set? c (!seen.contains '-') with
        | some f => flagsFrom f (c :: seen) fuel
        | none => failure

/-- A piece that takes no pieces, the start of which comes next. -/
def simple : Read Piece := do
  let c ← need
  let f := (← get).flags
  let plain (p : Pattern) : Piece := ⟨p, 0, true⟩
  match c with
  | '\\' =>
    match ← escape with
    | .char c octet =>
      if octet && !f.unicode && 0x80 ≤ c.val then failure
      return plain (literal f c)
    | .set c => return plain (.chars c.weight c.set)
    | .between holds => return plain (.between holds)
  | '.' =>
    drop
    match CharClass.dot? f with
    | some c => return plain (.chars c.weight c.set)
    | none => failure
  | '^' => drop; return plain (.between (Boundary.lineStart f))
  | '$' => drop; return plain (.between (Boundary.lineEnd f))
  | '[' =>
    let c ← bracketed ((← get).rest.length + 1)
    return ⟨.chars c.weight c.set, c.depth, true⟩
  | _ => drop; return plain (literal f c)

mutual

/-- Alternatives up to a closing parenthesis or the end. -/
def alternatives : Nat → Read (List Piece)
  | 0 => failure
  | fuel + 1 => do
    let first ← branch [] fuel
    if ← skip? ['|'] then return first :: (← alternatives fuel) else return [first]

/-- One alternative; the pieces read so far are in reverse order. -/
def branch (held : List Piece) : Nat → Read Piece
  | 0 => failure
  | fuel + 1 => do
    space
    match ← peek with
    | none => return .sequence held.reverse
    | some ')' => return .sequence held.reverse
    | some '|' => return .sequence held.reverse
    | some '(' => branch ((← group fuel) :: held) fuel
    | some '*' =>
      drop
      branch (← repeatLast 0 none held) fuel
    | some '+' =>
      drop
      branch (← repeatLast 1 none held) fuel
    | some '?' =>
      drop
      branch (← repeatLast 0 (some 1) held) fuel
    | some '\x7b' =>
      let (least, most) ← limits
      branch (← repeatLast least most held) fuel
    | some _ => branch ((← simple) :: held) fuel

/-- A group, or flags for the rest of the group around it; the parenthesis comes next. -/
def group : Nat → Read Piece
  | 0 => failure
  | fuel + 1 => do
    let outer := (← get).flags
    next
    if (← skip? "?P<".toList) || (← skip? "?<".toList) then
      groupName
      inside outer fuel
    else if ← skip? ['?'] then
      let (f, seen) ← flagsFrom outer [] ((← get).rest.length + 1)
      let c ← need
      drop
      modify fun s => { s with flags := f }
      if c == ')' then
        if seen.isEmpty then failure else return ⟨.empty, 0, false⟩
      else inside outer fuel
    else inside outer fuel

/-- The rest of a group, where `outer` holds again after it. -/
def inside (outer : Flags) : Nat → Read Piece
  | 0 => failure
  | fuel + 1 => do
    let body := Piece.either (← alternatives fuel)
    if !(← skip? [')']) then failure
    modify fun s => { s with flags := outer }
    return { body with depth := body.depth + 1, repeatable := true }

end

/-- The pattern that a text writes. -/
def ofText? (text : String) : Option Pattern := do
  let cs := text.toList
  let (pieces, s) ← (alternatives (4 * cs.length + 4)).run ⟨cs, {}, []⟩
  let whole := Piece.either pieces
  if !s.rest.isEmpty || nestingLimit < whole.depth then none
  if weightLimit < whole.pattern.weight then none
  return whole.pattern

end Conformance.Pattern
