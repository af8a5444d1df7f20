import Conformance.Text.Digits

/-!
# TOML strings

A string stands between double quotes, with escapes, or between single quotes, without. Tripled
quotes make it a block, which may have line breaks; a break right after the opening quotes is left
out, a break is one line feed however it is written, and one or two quotes before the closing ones
belong to the text. In a block with escapes a backslash at the end of a line joins it to the next
word.
-/

namespace Conformance.Toml

/-- A character that comments and strings may hold as it is. -/
def isPlain (c : Char) : Bool := c == '\t' || (0x20 ≤ c.val && c.val != 0x7f)

namespace Quoted

/-- The character of a one-letter escape. -/
def escape? : Char → Option Char
  | 'b' => some '\x08'
  | 't' => some '\t'
  | 'n' => some '\n'
  | 'f' => some '\x0c'
  | 'r' => some '\r'
  | '"' => some '"'
  | '\\' => some '\\'
  | _ => none

/-- The character whose number hexadecimal digits write. -/
def scalar? (digits : List Char) : Option Char :=
  (Text.number? 16 digits).bind fun n => if n.isValidChar then some (Char.ofNat n) else none

/-- A line with escapes up to its quote; `held`, reversed, was read before. -/
def lineFrom (held : List Char) : List Char → Option (List Char × List Char)
  | '"' :: rest => some (held.reverse, rest)
  | '\\' :: 'u' :: a :: b :: c :: d :: rest =>
    match scalar? [a, b, c, d] with
    | some x => lineFrom (x :: held) rest
    | none => none
  | '\\' :: 'U' :: a :: b :: c :: d :: e :: f :: g :: h :: rest =>
    match scalar? [a, b, c, d, e, f, g, h] with
    | some x => lineFrom (x :: held) rest
    | none => none
  | '\\' :: c :: rest =>
    match escape? c with
    | some x => lineFrom (x :: held) rest
    | none => none
  | c :: rest => if isPlain c && c != '\\' then lineFrom (c :: held) rest else none
  | [] => none

/-- A line without escapes up to its quote. -/
def rawLine? (text : List Char) : Option (List Char × List Char) :=
  let inside := text.takeWhile fun c => isPlain c && c != '\''
  match text.drop inside.length with
  | '\'' :: rest => some (inside, rest)
  | _ => none

/-- What follows three closing quotes: up to two more of them are text before the closing ones. -/
def close (quote : Char) (held : List Char) : List Char → List Char × List Char
  | a :: b :: rest =>
    if a = quote ∧ b = quote then ((b :: a :: held).reverse, rest)
    else if a = quote then ((a :: held).reverse, b :: rest)
    else (held.reverse, a :: b :: rest)
  | [a] => if a = quote then ((a :: held).reverse, []) else (held.reverse, [a])
  | [] => (held.reverse, [])

/-- What a backslash at the end of a line asks for. -/
inductive Joining where
  | no
  /-- The line has not ended yet. -/
  | line
  /-- The next word has not started yet. -/
  | word
  deriving DecidableEq, Repr

/-- A block with escapes up to its quotes. -/
def blockFrom (joining : Joining) (held : List Char) :
    List Char → Option (List Char × List Char)
  | '\r' :: '\n' :: rest =>
    if joining = .no then blockFrom .no ('\n' :: held) rest else blockFrom .word held rest
  | '\n' :: rest =>
    if joining = .no then blockFrom .no ('\n' :: held) rest else blockFrom .word held rest
  | ' ' :: rest => if joining = .no then blockFrom .no (' ' :: held) rest
    else blockFrom joining held rest
  | '\t' :: rest => if joining = .no then blockFrom .no ('\t' :: held) rest
    else blockFrom joining held rest
  | '"' :: '"' :: '"' :: rest => if joining = .line then none else some (close '"' held rest)
  | '\\' :: 'u' :: a :: b :: c :: d :: rest =>
    match scalar? [a, b, c, d] with
    | some x => if joining = .line then none else blockFrom .no (x :: held) rest
    | none => none
  | '\\' :: 'U' :: a :: b :: c :: d :: e :: f :: g :: h :: rest =>
    match scalar? [a, b, c, d, e, f, g, h] with
    | some x => if joining = .line then none else blockFrom .no (x :: held) rest
    | none => none
  | '\\' :: c :: rest =>
    if joining = .line then none
    else if c = ' ' ∨ c = '\t' then blockFrom .line held rest
    else if c = '\n' then blockFrom .word held rest
    else if c = '\r' then
      match rest with
      | '\n' :: rest => blockFrom .word held rest
      | _ => none
    else
      match escape? c with
      | some x => blockFrom .no (x :: held) rest
      | none => none
  | c :: rest =>
    if joining = .line || !isPlain c || c == '\\' then none else blockFrom .no (c :: held) rest
  | [] => none

/-- A block without escapes up to its quotes. -/
def rawBlockFrom (held : List Char) : List Char → Option (List Char × List Char)
  | '\'' :: '\'' :: '\'' :: rest => some (close '\'' held rest)
  | '\r' :: '\n' :: rest => rawBlockFrom ('\n' :: held) rest
  | '\n' :: rest => rawBlockFrom ('\n' :: held) rest
  | c :: rest => if isPlain c then rawBlockFrom (c :: held) rest else none
  | [] => none

/-- The text without a line break at its start. -/
def dropBreak : List Char → List Char
  | '\n' :: rest => rest
  | '\r' :: '\n' :: rest => rest
  | text => text

/-- A string in one line at the start of the text. -/
def line? : List Char → Option (List Char × List Char)
  | '"' :: rest => lineFrom [] rest
  | '\'' :: rest => rawLine? rest
  | _ => none

/-- A string of any kind at the start of the text. -/
def string? : List Char → Option (List Char × List Char)
  | '"' :: '"' :: '"' :: rest => blockFrom .no [] (dropBreak rest)
  | '\'' :: '\'' :: '\'' :: rest => rawBlockFrom [] (dropBreak rest)
  | text => line? text

end Quoted

end Conformance.Toml
