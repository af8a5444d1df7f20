import Conformance.Pattern.Basic
import Conformance.Unicode.Folding

/-!
# Character classes

The sets that patterns name. Where Unicode is switched off they are sets of octets; such a set may
only hold ASCII characters, since a pattern always matches whole characters.
-/

namespace Conformance.Pattern

open Unicode (CharSet)

/-- What is switched on at a place of a pattern. -/
structure Flags where
  caseless : Bool := false
  multiLine : Bool := false
  dotAll : Bool := false
  unicode : Bool := true
  verbose : Bool := false
  carriageReturn : Bool := false
  deriving DecidableEq, Repr

/-- A set of characters as a pattern names it. -/
structure CharClass where
  set : CharSet
  weight : Nat
  /-- How deep brackets and operations in it are nested. -/
  depth : Nat

namespace CharClass

/-- The characters from one to another. -/
def range (first last : Char) : CharClass := ⟨fun c => first ≤ c ∧ c ≤ last, 1, 0⟩

def single (c : Char) : CharClass := range c c

def nothing : CharClass := ⟨fun _ => false, 1, 0⟩

/-- The ASCII characters that differ in case only. -/
def asciiEquivalents (c : Char) : List Char := [c, c.toLower, c.toUpper]

/-- The set with all that differs by case only. -/
def fold (f : Flags) (set : CharSet) : CharSet :=
  if !f.caseless then set
  else if f.unicode then fun c => (Unicode.Folding.equivalents c).any set
  else fun c => (asciiEquivalents c).any set

/-- The octets above ASCII, as characters. -/
def highOctets : List Char := (List.range 128).map fun i => Char.ofNat (128 + i)

/-- The class, if it may stand in a pattern. -/
def checked? (f : Flags) (c : CharClass) : Option CharClass :=
  if f.unicode then some c
  else if highOctets.any c.set then none
  else some { c with set := fun x => x.val < 0x80 && c.set x }

/-- The class folded, then negated if `negated`. -/
def finish? (f : Flags) (negated : Bool) (c : CharClass) : Option CharClass :=
  let folded := fold f c.set
  checked? f { c with set := if negated then (!folded ·) else folded }

/-- What stands in a class side by side. -/
def union : List CharClass → CharClass
  | [] => nothing
  | [item] => item
  | items =>
    { set := fun c => items.any (·.set c)
      weight := (items.map (·.weight)).foldl (· + ·) 0
      depth := (items.map (·.depth)).foldl max 0 + 1 }

/-- An operation on classes. -/
inductive Operation where
  | intersection
  | difference
  | symmetricDifference
  deriving DecidableEq, Repr

/-- The result of an operation. -/
def combine (f : Flags) (op : Operation) (a b : CharClass) : CharClass :=
  let first := fold f a.set
  let second := fold f b.set
  { set := match op with
      | .intersection => fun c => first c && second c
      | .difference => fun c => first c && !second c
      | .symmetricDifference => fun c => first c != second c
    weight := a.weight + b.weight
    depth := max a.depth b.depth + 1 }

/-- The ASCII characters that a name in colons stands for. -/
def ascii? (name : String) : Option CharSet :=
  match name with
  | "alnum" => some Char.isAlphanum
  | "alpha" => some Char.isAlpha
  | "ascii" => some fun c => c.val < 0x80
  | "blank" => some fun c => c == '\t' || c == ' '
  | "cntrl" => some fun c => c.val < 0x20 || c.val == 0x7f
  | "digit" => some Char.isDigit
  | "graph" => some fun c => 0x21 ≤ c.val && c.val ≤ 0x7e
  | "lower" => some Char.isLower
  | "print" => some fun c => 0x20 ≤ c.val && c.val ≤ 0x7e
  | "punct" => some fun c => 0x21 ≤ c.val && c.val ≤ 0x7e && !c.isAlphanum
  | "space" => some fun c => c == ' ' || (0x09 ≤ c.val && c.val ≤ 0x0d)
  | "upper" => some Char.isUpper
  | "word" => some fun c => c.isAlphanum || c == '_'
  | "xdigit" => some (Text.isDigitBelow 16)
  | _ => none

/-- The class of one of the letters `d`, `s` and `w` after a backslash. -/
def letter? (f : Flags) (letter : Char) (negated : Bool) : Option CharClass := do
  let (set, weight, octets) ← match letter with
    | 'd' => some (Unicode.isDigit, 140, "digit")
    | 's' => some (Text.isBlank, 20, "space")
    | 'w' => some (Unicode.isWord, 1500, "word")
    | _ => none
  let set ← if f.unicode then some set else ascii? octets
  checked? f ⟨if negated then (!set ·) else set, weight, 0⟩

/-- The class of a property. -/
def property? (f : Flags) (set : Option CharSet) (negated : Bool) : Option CharClass :=
  if f.unicode then set.bind fun set => finish? f negated ⟨set, 1200, 0⟩ else none

/-- What a dot stands for. -/
def dot? (f : Flags) : Option CharClass :=
  if !f.unicode then none
  else if f.dotAll then some ⟨fun _ => true, 10, 0⟩
  else some ⟨fun c => c != '\n' && !(f.carriageReturn && c == '\r'), 12, 0⟩

end CharClass

end Conformance.Pattern
