import Conformance.Shell.Arithmetic
import Conformance.Shell.Machine

/-!
# Conditions

What `test` and its other spelling, an opening bracket, decide. How many arguments there are goes
before what they look like, so that an argument that looks like an operator can be an operand.
-/

namespace Conformance.Shell.Condition

/-- Why a condition cannot be decided. -/
inductive Fault where
  | noNumber (text : String)
  | noOperator (text : String)
  | noBracket
  deriving DecidableEq, Repr

/-- The wording of a fault. -/
def Fault.message : Fault → String
  | .noNumber text => "Illegal number: " ++ text
  | .noOperator text => text ++ ": unexpected operator"
  | .noBracket => "missing ]"

/-- The number of an operand. -/
def number (text : String) : Except Fault Int :=
  if text.isEmpty then .error (.noNumber text)
  else match Text.number? 10 (text.toList.filter (· ≠ '-')), text.toList with
    | some n, '-' :: _ => .ok (-(n : Int))
    | some n, _ => .ok n
    | none, _ => .error (.noNumber text)

/-- How many octets a file has. -/
def size (m : Machine) (path : String) : Nat :=
  match m.read path with
  | .ok s => s.octets.length + s.forever.length
  | .error _ => 0

/-- The test of one operand. -/
def unary? (m : Machine) (operator operand : String) : Option Bool :=
  match operator with
  | "-n" => some (!operand.isEmpty)
  | "-z" => some operand.isEmpty
  | "-e" => some (m.has operand)
  | "-f" => some (m.hasFile operand)
  | "-d" => some (m.hasDirectory operand)
  | "-r" => some (m.admits operand)
  | "-w" => some (m.admits operand)
  | "-x" => some (m.hasDirectory operand && m.admits operand)
  | "-s" => some (m.hasDirectory operand || size m operand ≠ 0)
  | "-c" => some (operand = Machine.nullDevice || operand = Machine.zeroDevice)
  | "-t" => some false
  | "-h" => some false
  | "-L" => some false
  | _ => none

/-- The test of two operands. -/
def binary? (left operator right : String) : Option (Except Fault Bool) :=
  let compare (p : Int → Int → Bool) : Option (Except Fault Bool) :=
    some do return p (← number left) (← number right)
  match operator with
  | "=" => some (.ok (left = right))
  | "==" => some (.ok (left = right))
  | "!=" => some (.ok (left ≠ right))
  | "<" => some (.ok (left < right))
  | ">" => some (.ok (right < left))
  | "-eq" => compare fun a b => a = b
  | "-ne" => compare fun a b => a ≠ b
  | "-lt" => compare fun a b => a < b
  | "-le" => compare fun a b => a ≤ b
  | "-gt" => compare fun a b => b < a
  | "-ge" => compare fun a b => b ≤ a
  | _ => none

/-- The condition of some arguments. -/
def decideFrom (m : Machine) : Nat → List String → Except Fault Bool
  | 0, _ => .ok false
  | _ + 1, [] => .ok false
  | _ + 1, [operand] => .ok (!operand.isEmpty)
  | n + 1, [operator, operand] =>
    if operator = "!" then do return !(← decideFrom m n [operand])
    else match unary? m operator operand with
      | some b => .ok b
      | none => .error (.noOperator operator)
  | n + 1, left :: operator :: right :: rest =>
    match rest, binary? left operator right with
    | [], some decision => decision
    | rest, decision? =>
      if left = "!" then do return !(← decideFrom m n (operator :: right :: rest))
      else if left = "(" ∧ (right :: rest).getLast? = some ")" then
        decideFrom m n (operator :: (right :: rest).dropLast)
      else match operator, decision?, rest with
        | "-a", none, _ => do return !left.isEmpty && (← decideFrom m n (right :: rest))
        | "-o", none, _ => do return !left.isEmpty || (← decideFrom m n (right :: rest))
        | _, some decision, "-a" :: rest => do return (← decision) && (← decideFrom m n rest)
        | _, some decision, "-o" :: rest => do return (← decision) || (← decideFrom m n rest)
        | _, _, _ =>
          match unary? m left operator, right :: rest with
          | some b, "-a" :: rest => do return b && (← decideFrom m n rest)
          | some b, "-o" :: rest => do return b || (← decideFrom m n rest)
          | _, _ => .error (.noOperator operator)

/-- The condition of the arguments of `test`. -/
def test (m : Machine) (arguments : List String) : Except Fault Bool :=
  decideFrom m (arguments.length + 1) arguments

/-- The condition of the arguments of an opening bracket. -/
def bracket (m : Machine) (arguments : List String) : Except Fault Bool :=
  if arguments.getLast? = some "]" then test m arguments.dropLast else .error .noBracket

end Conformance.Shell.Condition
