import Conformance.Json.Basic
import Conformance.Json.Literal

/-!
# Writing JSON

One printer with two layouts: compact, without a blank, and indented by two blanks for each level,
with empty arrays and objects closed on the spot. A string without a text is written as the escape
of a lone surrogate, which reads back as a string without a text.
-/

namespace Conformance.Json

/-- How the parts of a value are set apart. -/
inductive Layout where
  | compact
  | indented
  deriving DecidableEq, Repr

/-- What stands before a part at the given depth. -/
def Layout.gap : Layout → Nat → List Char
  | .compact, _ => []
  | .indented, depth => '\n' :: List.replicate (2 * depth) ' '

/-- What stands between a name and its value. -/
def Layout.colon : Layout → List Char
  | .compact => [':']
  | .indented => [':', ' ']

/-- The decimal digits of a number. -/
def digits (n : Nat) : List Char := Nat.toDigits 10 n

/-- A number in digits, with an exponent when it is not written as an integer. -/
def Number.write : Number → List Char
  | .integer n => (if n < 0 then ['-'] else []) ++ digits n.natAbs
  | .scientific negative n exponent =>
    (if negative then ['-'] else []) ++ digits n ++ 'e' ::
      (if exponent < 0 then ['-'] else []) ++ digits exponent.natAbs

/-- The literal of a string value. -/
def writeText : Option String → List Char
  | some s => Literal.write s.toList
  | none => ['"', '\\', 'u', 'd', '8', '0', '0', '"']

mutual

/-- The text of a value that stands at `depth`. -/
def render (layout : Layout) (depth : Nat) : Json → List Char
  | .null => ['n', 'u', 'l', 'l']
  | .bool true => ['t', 'r', 'u', 'e']
  | .bool false => ['f', 'a', 'l', 's', 'e']
  | .number n => n.write
  | .string t => writeText t
  | .array [] => ['[', ']']
  | .array (item :: rest) =>
    '[' :: layout.gap (depth + 1) ++ item.render layout (depth + 1) ++
      renderItems layout (depth + 1) rest ++ layout.gap depth ++ [']']
  | .object [] => ['\x7b', '\x7d']
  | .object ((name, value) :: rest) =>
    '\x7b' :: layout.gap (depth + 1) ++ writeText name ++ layout.colon ++
      value.render layout (depth + 1) ++ renderMembers layout (depth + 1) rest ++
      layout.gap depth ++ ['\x7d']

/-- The items after the first. -/
def renderItems (layout : Layout) (depth : Nat) : List Json → List Char
  | [] => []
  | item :: rest =>
    ',' :: layout.gap depth ++ item.render layout depth ++ renderItems layout depth rest

/-- The members after the first. -/
def renderMembers (layout : Layout) (depth : Nat) : List (Option String × Json) → List Char
  | [] => []
  | (name, value) :: rest =>
    ',' :: layout.gap depth ++ writeText name ++ layout.colon ++ value.render layout depth ++
      renderMembers layout depth rest

end

/-- The value on one line, without a blank. -/
def compact (value : Json) : String := String.ofList (value.render .compact 0)

/-- The value over several lines. -/
def pretty (value : Json) : String := String.ofList (value.render .indented 0)

end Conformance.Json
