/-!
# JSON values

A value keeps what its readers may ask of it and nothing else of its spelling. A number is either
an integer written without a point and an exponent, or it is kept as digits and a power of ten; so
is a zero with a sign, which is no integer. A string is a text, or no text when an escape names
half of a surrogate pair and the other half is missing. An object keeps its members in order and
with repetitions, so that a reader can refuse a field given twice.
-/

namespace Conformance

/-- A number, by the form it is written in. -/
inductive Json.Number where
  /-- Digits, after a sign if it is negative. -/
  | integer (n : Int)
  /-- Any other form: `digits` times ten to the power of `exponent`, negated or not. -/
  | scientific (negative : Bool) (digits : Nat) (exponent : Int)
  deriving DecidableEq, Repr

/-- A JSON value. -/
inductive Json where
  | null
  | bool (b : Bool)
  | number (n : Json.Number)
  /-- No text when a lone surrogate is escaped. -/
  | string (text : Option String)
  | array (items : List Json)
  | object (members : List (Option String × Json))
  deriving Repr

namespace Json

def text (s : String) : Json := .string (some s)

def count (n : Nat) : Json := .number (.integer n)

/-- The value of an object with distinct texts as names. -/
def record (members : List (String × Json)) : Json :=
  .object (members.map fun (name, value) => (some name, value))

/-- The number of decimal digits of a positive number. -/
def Number.decimals (n : Nat) : Nat := (Nat.toDigits 10 n).length

/-- Half a unit above the largest finite binary64, from where on numbers round to infinity. -/
def Number.overflow : Nat := Nat.pow 2 1024 - Nat.pow 2 970

/-- The number `digits` times ten to the power of `exponent` rounds to a finite binary64. -/
def Number.fits (digits : Nat) (exponent : Int) : Bool :=
  let places := exponent + decimals digits
  if digits = 0 ∨ places ≤ 308 then true
  else if 310 < places then false
  else if 0 ≤ exponent then decide (digits * Nat.pow 10 exponent.toNat < overflow)
  else decide (digits < overflow * Nat.pow 10 (-exponent).toNat)

/-- The number is in the range of binary64. -/
def Number.finite : Number → Bool
  | .integer n => fits n.natAbs 0
  | .scientific _ digits exponent => fits digits exponent

mutual

/-- How deep arrays and objects are nested. -/
def depth : Json → Nat
  | .array items => depthItems items + 1
  | .object members => depthMembers members + 1
  | _ => 0

/-- `depth` of the deepest item. -/
def depthItems : List Json → Nat
  | [] => 0
  | item :: rest => max item.depth (depthItems rest)

/-- `depth` of the deepest member. -/
def depthMembers : List (Option String × Json) → Nat
  | [] => 0
  | (_, value) :: rest => max value.depth (depthMembers rest)

end

mutual

/-- Every string and name is a text, and every number is finite. -/
def sound : Json → Bool
  | .null => true
  | .bool _ => true
  | .number n => n.finite
  | .string t => t.isSome
  | .array items => soundItems items
  | .object members => soundMembers members

/-- `sound` of every item. -/
def soundItems : List Json → Bool
  | [] => true
  | item :: rest => item.sound && soundItems rest

/-- `sound` of every name and member. -/
def soundMembers : List (Option String × Json) → Bool
  | [] => true
  | (name, value) :: rest => name.isSome && value.sound && soundMembers rest

end

end Json

end Conformance
