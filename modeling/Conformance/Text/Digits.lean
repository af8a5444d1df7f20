/-!
# Digits

Numbers are written with the digits `0` to `9` and, in a radix above ten, with letters of either
case. Only ASCII digits count.
-/

namespace Conformance.Text

/-- The value of a digit, where the letters go on from ten. -/
def digitValue? (c : Char) : Option Nat :=
  if '0' ≤ c ∧ c ≤ '9' then some (c.val.toNat - 0x30)
  else if 'a' ≤ c ∧ c ≤ 'z' then some (c.val.toNat - 0x57)
  else if 'A' ≤ c ∧ c ≤ 'Z' then some (c.val.toNat - 0x37)
  else none

def digitBelow? (radix : Nat) (c : Char) : Option Nat := (digitValue? c).filter (· < radix)

def isDigitBelow (radix : Nat) (c : Char) : Bool := (digitBelow? radix c).isSome

/-- The number that digits write, with `n` written before them. -/
def numberFrom? (radix n : Nat) : List Char → Option Nat
  | [] => some n
  | c :: rest =>
    match digitBelow? radix c with
    | some d => numberFrom? radix (n * radix + d) rest
    | none => none

def number? (radix : Nat) (digits : List Char) : Option Nat := numberFrom? radix 0 digits

/-- The number that exactly `n` hexadecimal digits write at the start of a text. -/
def hexOf? (n : Nat) (text : List Char) : Option Nat :=
  if (text.take n).length < n then none else number? 16 (text.take n)

/-- The number that decimal digits write; what is no digit counts as zero. -/
def decimal (digits : List Char) : Nat := (number? 10 digits).getD 0

/-- A lower-case hexadecimal digit. -/
def hexDigit (n : Nat) : Char :=
  if n < 10 then Char.ofNat (0x30 + n) else Char.ofNat (0x57 + n)

end Conformance.Text
