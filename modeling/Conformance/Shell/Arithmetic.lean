import Conformance.Text.Digits
import Conformance.Word

/-!
# Arithmetic of the shell

Expressions over signed 64-bit numbers and variables. Operators are taken by rank, those of one rank
from left to right. Both sides of an operator are always computed, which only a division by zero or
an assignment could tell.
-/

namespace Conformance.Shell.Arithmetic

open Word (signed unsigned)

/-- Why an expression has no value. -/
inductive Fault where
  | divisionByZero
  | malformed
  deriving DecidableEq, Repr

/-- The wording of a fault in an expression. -/
def Fault.message (text : String) : Fault → String
  | .divisionByZero => "arithmetic expression: division by zero: \"" ++ text ++ "\""
  | .malformed => "arithmetic expression: expecting primary: \"" ++ text ++ "\""

abbrev Variables := List (String × String)

def truth (p : Prop) [Decidable p] : Int := if p then 1 else 0

/-- The number that a text writes, zero if it is blank. -/
def number? (text : List Char) : Option Int :=
  let text := (text.dropWhile (· == ' ')).takeWhile (· ≠ ' ')
  let (negative, digits) := match text with
    | '-' :: rest => (true, rest)
    | '+' :: rest => (false, rest)
    | rest => (false, rest)
  let magnitude := match digits with
    | '0' :: 'x' :: rest => Text.number? 16 rest
    | '0' :: 'X' :: rest => Text.number? 16 rest
    | '0' :: rest => Text.number? 8 rest
    | rest => Text.number? 10 rest
  magnitude.map fun n => signed (if negative then -(n : Int) else n)

/-- The operators and their ranks, longer ones first. -/
def operators : List (String × Nat) :=
  [("||", 1), ("&&", 2), ("==", 6), ("!=", 6), ("<=", 7), (">=", 7), ("<<", 8), (">>", 8), ("|", 3),
    ("^", 4), ("&", 5), ("<", 7), (">", 7), ("+", 9), ("-", 9), ("*", 10), ("/", 10), ("%", 10)]

/-- The operator at the start of a text, and the text after it. -/
def operator? (text : List Char) : Option (String × Nat × List Char) :=
  operators.findSome? fun (name, rank) =>
    if name.toList.isPrefixOf text then some (name, rank, text.drop name.length) else none

/-- The value of an operator. -/
def apply (name : String) (a b : Int) : Except Fault Int :=
  match name with
  | "||" => .ok (truth (a ≠ 0 ∨ b ≠ 0))
  | "&&" => .ok (truth (a ≠ 0 ∧ b ≠ 0))
  | "==" => .ok (truth (a = b))
  | "!=" => .ok (truth (a ≠ b))
  | "<=" => .ok (truth (a ≤ b))
  | ">=" => .ok (truth (b ≤ a))
  | "<" => .ok (truth (a < b))
  | ">" => .ok (truth (b < a))
  | "<<" => .ok (signed (a * Nat.pow 2 (unsigned b % 64)))
  | ">>" => .ok (Int.fdiv a (Nat.pow 2 (unsigned b % 64)))
  | "|" => .ok (signed (unsigned a ||| unsigned b : Nat))
  | "^" => .ok (signed (unsigned a ^^^ unsigned b : Nat))
  | "&" => .ok (signed (unsigned a &&& unsigned b : Nat))
  | "+" => .ok (signed (a + b))
  | "-" => .ok (signed (a - b))
  | "*" => .ok (signed (a * b))
  | "/" => if b = 0 then .error .divisionByZero else .ok (signed (Int.tdiv a b))
  | "%" => if b = 0 then .error .divisionByZero else .ok (signed (Int.tmod a b))
  | _ => .error .malformed

/-- A value, the text after it, and the variables after it. -/
abbrev Result := Except Fault (Int × List Char × Variables)

/-- The text without blanks at its start. -/
def skip (text : List Char) : List Char :=
  text.dropWhile fun c => c == ' ' || c == '\t' || c == '\n'

/-- The variables with a value set. -/
def set (name value : String) (v : Variables) : Variables :=
  (name, value) :: v.filter (·.1 ≠ name)

/-- The operator in front of the equals sign of an assignment, and the text after the sign. -/
def assignment? (text : List Char) : Option (Option String × List Char) :=
  match skip text with
  | '=' :: '=' :: _ => none
  | '=' :: rest => some (none, rest)
  | text =>
    match operator? text with
    | some (name, _, '=' :: rest) =>
      if ["<=", ">=", "==", "!=", "<", ">"].contains name then none else some (some name, rest)
    | _ => none

mutual

/-- An operand. -/
def operand : Nat → Variables → List Char → Result
  | 0, _, _ => .error .malformed
  | n + 1, v, text =>
    match skip text with
    | '(' :: rest => do
      let (value, rest, v) ← expression n 0 v rest
      match skip rest with
      | ')' :: rest => return (value, rest, v)
      | _ => throw .malformed
    | '-' :: rest => do
      let (value, rest, v) ← operand n v rest
      return (signed (-value), rest, v)
    | '+' :: rest => operand n v rest
    | '!' :: rest => do
      let (value, rest, v) ← operand n v rest
      return (truth (value = 0), rest, v)
    | '~' :: rest => do
      let (value, rest, v) ← operand n v rest
      return (signed (-value - 1), rest, v)
    | text =>
      let name := text.takeWhile fun c => c.isAlphanum || c == '_'
      let rest := text.dropWhile fun c => c.isAlphanum || c == '_'
      if name.isEmpty then .error .malformed
      else if (name.head?.any Char.isDigit) then do
        let some value := number? name | throw .malformed
        return (value, rest, v)
      else do
        let name := String.ofList name
        let old ← match v.lookup name with
          | none => pure 0
          | some text =>
            if text.isEmpty then pure 0
            else match number? text.toList with
              | some value => pure value
              | none => throw .malformed
        match assignment? rest with
        | some (operator, rest) =>
          let (right, rest, v) ← expression n 0 v rest
          let value ← match operator with
            | none => pure right
            | some operator => apply operator old right
          return (value, rest, set name (toString value) v)
        | none => return (old, rest, v)

/-- The operators of rank `least` or more behind a value. -/
def operations (left : Int) : Nat → Nat → Variables → List Char → Result
  | 0, _, _, _ => .error .malformed
  | n + 1, least, v, text =>
    match operator? (skip text) with
    | some (name, rank, rest) =>
      if rank < least then .ok (left, text, v)
      else do
        let (right, rest, v) ← operand n v rest
        let (right, rest, v) ← operations right n (rank + 1) v rest
        operations (← apply name left right) n least v rest
    | none => .ok (left, text, v)

/-- An operand and the operators of rank `least` or more behind it. -/
def expression : Nat → Nat → Variables → List Char → Result
  | 0, _, _, _ => .error .malformed
  | n + 1, least, v, text => do
    let (left, rest, v) ← operand n v text
    let (value, rest, v) ← operations left n least v rest
    match least, skip rest with
    | 0, '?' :: rest =>
      let (yes, rest, v) ← expression n 0 v rest
      match skip rest with
      | ':' :: rest =>
        let (no, rest, v) ← expression n 0 v rest
        return (if value ≠ 0 then yes else no, rest, v)
      | _ => throw .malformed
    | _, _ => return (value, rest, v)

end

/-- The value of an expression, and the variables after it. -/
def evaluate (v : Variables) (text : List Char) : Except Fault (Int × Variables) := do
  if (skip text).isEmpty then return (0, v)
  let (value, rest, v) ← expression (4 * text.length + 4) 0 v text
  if (skip rest).isEmpty then return (value, v) else throw .malformed

end Conformance.Shell.Arithmetic
