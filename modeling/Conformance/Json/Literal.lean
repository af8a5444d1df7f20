import Conformance.Text.Digits

/-!
# JSON string literals

A literal stands between double quotes. Inside, a quote, a backslash and the control characters
below U+0020 are written as escapes, and every other character as itself. Reading also takes the
escape of any UTF-16 unit; two units that form a surrogate pair are one character, and a unit of a
pair that is alone leaves the literal without a text.
-/

namespace Conformance.Json.Literal

/-- Four lower-case hexadecimal digits. -/
def hex4 (n : Nat) : List Char :=
  [n / 0x1000 % 16, n / 0x100 % 16, n / 0x10 % 16, n % 16].map Text.hexDigit

/-- How a character is written inside a literal. -/
def escape (c : Char) : List Char :=
  if c = '"' then ['\\', '"']
  else if c = '\\' then ['\\', '\\']
  else if c = '\n' then ['\\', 'n']
  else if c = '\r' then ['\\', 'r']
  else if c = '\t' then ['\\', 't']
  else if c = '\x08' then ['\\', 'b']
  else if c = '\x0c' then ['\\', 'f']
  else if c.val < 0x20 then '\\' :: 'u' :: hex4 c.val.toNat
  else [c]

def write (text : List Char) : List Char := '"' :: (text.flatMap escape ++ ['"'])

/-- The character of a one-letter escape. -/
def short? (c : Char) : Option Char :=
  if c = '"' ∨ c = '\\' ∨ c = '/' then some c
  else if c = 'b' then some '\x08'
  else if c = 'f' then some '\x0c'
  else if c = 'n' then some '\n'
  else if c = 'r' then some '\r'
  else if c = 't' then some '\t'
  else none

/-- One piece of a literal: a character, or a UTF-16 unit that was escaped. -/
inductive Piece where
  | char (c : Char)
  | unit (n : Nat)
  deriving DecidableEq, Repr

/-- The pieces from inside a literal up to its closing quote, and the text after that. `held` are
the pieces already read, reversed. -/
def piecesFrom (held : List Piece) : List Char → Option (List Piece × List Char)
  | '"' :: rest => some (held.reverse, rest)
  | '\\' :: 'u' :: a :: b :: c :: d :: rest =>
    match Text.number? 16 [a, b, c, d] with
    | some n => piecesFrom (.unit n :: held) rest
    | none => none
  | '\\' :: c :: rest =>
    match short? c with
    | some c => piecesFrom (.char c :: held) rest
    | none => none
  | c :: rest => if c.val < 0x20 ∨ c = '\\' then none else piecesFrom (.char c :: held) rest
  | [] => none

/-- The unit is the first of a surrogate pair. -/
def leading (n : Nat) : Bool := 0xd800 ≤ n && n < 0xdc00

/-- The unit is the second of a surrogate pair. -/
def trailing (n : Nat) : Bool := 0xdc00 ≤ n && n < 0xe000

/-- The text of the pieces, unless a surrogate is alone. -/
def join : List Piece → Option (List Char)
  | [] => some []
  | .char c :: rest => (join rest).map (c :: ·)
  | .unit n :: .unit m :: rest =>
    if leading n && trailing m then
      (join rest).map (Char.ofNat (0x10000 + (n - 0xd800) * 0x400 + (m - 0xdc00)) :: ·)
    else if leading n || trailing n then none
    else (join (.unit m :: rest)).map (Char.ofNat n :: ·)
  | .unit n :: rest =>
    if leading n || trailing n then none else (join rest).map (Char.ofNat n :: ·)

/-- The text of a literal whose opening quote was read, and what follows it. -/
def read (text : List Char) : Option (Option String × List Char) :=
  (piecesFrom [] text).map fun (pieces, rest) => ((join pieces).map String.ofList, rest)

end Conformance.Json.Literal
