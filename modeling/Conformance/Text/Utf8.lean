/-!
# UTF-8

A text is written as octets with `encode`. Reading goes one octet at a time through a small
machine: between characters, or inside one with some continuation octets still owed. What comes out
is a list of items, a character or an ill-formed part, where an ill-formed part is the longest start
of a character that its next octet does not continue, or a single octet that starts none.

`decode` wants characters only. `lossy` takes every ill-formed part as U+FFFD. An octet below 0x80
is a character of its own in every state, so both readings split at each ASCII character.
-/

namespace Conformance.Text.Utf8

/-- The octets of a character. -/
def encodeChar (c : Char) : List UInt8 :=
  let v := c.val.toNat
  if v < 0x80 then [v.toUInt8]
  else if v < 0x800 then [(0xc0 + v / 0x40).toUInt8, (0x80 + v % 0x40).toUInt8]
  else if v < 0x10000 then
    [(0xe0 + v / 0x1000).toUInt8, (0x80 + v / 0x40 % 0x40).toUInt8, (0x80 + v % 0x40).toUInt8]
  else
    [(0xf0 + v / 0x40000).toUInt8, (0x80 + v / 0x1000 % 0x40).toUInt8,
      (0x80 + v / 0x40 % 0x40).toUInt8, (0x80 + v % 0x40).toUInt8]

def encode (text : List Char) : List UInt8 := text.flatMap encodeChar

/-- Where the reader stands between octets. -/
inductive State where
  /-- Between characters. -/
  | between
  /-- Inside a character: `owed + 1` octets are owed, the next one from `low` to `high`, and `value`
  is what was read of the character. -/
  | inside (owed value : Nat) (low high : UInt8)
  deriving DecidableEq, Repr

/-- An ill-formed part is an item without a character. -/
abbrev Item := Option Char

/-- The first octet of a character. -/
def start (b : UInt8) : List Item × State :=
  let v := b.toNat
  if v < 0x80 then ([some (Char.ofNat v)], .between)
  else if v < 0xc2 then ([none], .between)
  else if v < 0xe0 then ([], .inside 0 (v - 0xc0) 0x80 0xbf)
  else if v = 0xe0 then ([], .inside 1 0 0xa0 0xbf)
  else if v = 0xed then ([], .inside 1 0xd 0x80 0x9f)
  else if v < 0xf0 then ([], .inside 1 (v - 0xe0) 0x80 0xbf)
  else if v = 0xf0 then ([], .inside 2 0 0x90 0xbf)
  else if v < 0xf4 then ([], .inside 2 (v - 0xf0) 0x80 0xbf)
  else if v = 0xf4 then ([], .inside 2 4 0x80 0x8f)
  else ([none], .between)

/-- One octet: the items it completes, and the state after it. -/
def step : State → UInt8 → List Item × State
  | .between, b => start b
  | .inside owed value low high, b =>
    if low ≤ b ∧ b ≤ high then
      let value' := value * 0x40 + (b.toNat - 0x80)
      match owed with
      | 0 => ([some (Char.ofNat value')], .between)
      | owed' + 1 => ([], .inside owed' value' 0x80 0xbf)
    else
      let (items, state) := start b
      (none :: items, state)

/-- What is left at the end of the octets: a character broken off is ill-formed. -/
def finish : State → List Item
  | .between => []
  | .inside .. => [none]

/-- `items` from a state on, with the items found so far reversed. -/
def itemsFrom (found : List Item) (state : State) : List UInt8 → List Item
  | [] => found.reverse ++ finish state
  | b :: rest =>
    let (items, state') := step state b
    itemsFrom (items.reverse ++ found) state' rest

/-- The characters and ill-formed parts of a list of octets, in order. -/
def items (octets : List UInt8) : List Item := itemsFrom [] .between octets

def decode (octets : List UInt8) : Option (List Char) := (items octets).mapM id

/-- U+FFFD, which stands for an ill-formed part. -/
def replacement : Char := '\ufffd'

def lossy (octets : List UInt8) : List Char := (items octets).map (·.getD replacement)

def octets (s : String) : List UInt8 := encode s.toList

/-- The text that octets are, if they are one. -/
def text? (octets : List UInt8) : Option String := (decode octets).map String.ofList

/-- The text of octets, with U+FFFD for what is none. -/
def lossyText (octets : List UInt8) : String := String.ofList (lossy octets)

end Conformance.Text.Utf8
