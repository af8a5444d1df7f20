import Conformance.Text.Digits

/-!
# Tables of characters

Tables that say something about every character are written as texts. A list of runs has the name of
each run and then its length, which is left out if it is one: `Lu26Ll` is a run of 26 and a run of
one. A set of characters is a list of numbers and ranges in hexadecimal digits.
-/

namespace Conformance.Unicode

/-- Characters that follow each other and have the same value. -/
structure Run where
  name : String
  length : Nat
  deriving DecidableEq, Repr

namespace Run

/-- The run of a name, given in reverse, and a length, which is zero if it is left out. -/
def ofParts (name : List Char) (length : Nat) : Run :=
  ⟨String.ofList name.reverse, max length 1⟩

/-- The runs of a text when `name`, reversed, and `length` were read of the first one. -/
def decodeFrom (name : List Char) (length : Nat) : List Char → List Run
  | [] => if name.isEmpty then [] else [ofParts name length]
  | c :: rest =>
    if c.isDigit then decodeFrom name (length * 10 + Text.decimal [c]) rest
    else if c.isUpper && !name.isEmpty then ofParts name length :: decodeFrom [c] 0 rest
    else decodeFrom (c :: name) length rest

/-- The runs of a list of texts. -/
def decode (encoded : List String) : List Run :=
  encoded.flatMap fun text => decodeFrom [] 0 text.toList

/-- The name of the run that a number is in. -/
def find (n : Nat) : List Run → String
  | [] => ""
  | run :: rest => if n < run.length then run.name else find (n - run.length) rest

end Run

namespace Range

/-- The ends of a range. -/
def ends? (text : List Char) : Option (Nat × Nat) :=
  match text.splitOn '-' with
  | [only] => (Text.number? 16 only).map fun n => (n, n)
  | [first, last] => do return (← Text.number? 16 first, ← Text.number? 16 last)
  | _ => none

/-- The number is in one of the ranges. -/
def any (encoded : List String) (n : Nat) : Bool :=
  encoded.any fun text => (text.toList.splitOn ' ').any fun range =>
    (ends? range).any fun (first, last) => first ≤ n && n ≤ last

end Range

end Conformance.Unicode
