import Conformance.Unicode.Property

/-!
# Patterns

A pattern stands for the stretches of a text that it matches. Whether it matches anywhere is asked
of all places of the text at once: from a set of places where a match may start, the pattern gives
the set of places where it may end. A repetition without an upper bound adds places until nothing
new comes up, which is the case after as many rounds as the text has places.
-/

namespace Conformance

/-- A pattern. -/
inductive Pattern where
  | empty
  /-- One character of a set. The weight says how large the set is in a compiled pattern. -/
  | chars (weight : Nat) (set : Unicode.CharSet)
  /-- No character, at a place whose neighbours are so. -/
  | between (holds : Option Char → Option Char → Bool)
  | sequence (first second : Pattern)
  | either (first second : Pattern)
  | repeated (least : Nat) (most : Option Nat) (body : Pattern)

namespace Pattern

/-- Places of a text, strictly increasing. -/
abbrev Places := List Nat

/-- The places of either list. -/
def union : Places → Places → Places
  | [], b => b
  | a, [] => a
  | i :: a, j :: b =>
    if i < j then i :: union a (j :: b)
    else if j < i then j :: union (i :: a) b
    else i :: union a b
termination_by a b => a.length + b.length

/-- The places after `n` steps. -/
def times (step : Places → Places) : Nat → Places → Places
  | 0, places => places
  | n + 1, places =>
    let next := step places
    if next = places then places else times step n next

/-- The places after at most `n` steps. -/
def upTo (step : Places → Places) : Nat → Places → Places
  | 0, places => places
  | n + 1, places =>
    let next := union places (step places)
    if next = places then places else upTo step n next

/-- The character before a place. -/
def before? (text : Array Char) (i : Nat) : Option Char := if i = 0 then none else text[i - 1]?

/-- The places where a match ends that starts at one of the given places. -/
def ends (text : Array Char) : Pattern → Places → Places
  | .empty, places => places
  | .chars _ set, places => (places.filter fun i => text[i]?.any set).map (· + 1)
  | .between holds, places => places.filter fun i => holds (before? text i) text[i]?
  | .sequence first second, places => ends text second (ends text first places)
  | .either first second, places => union (ends text first places) (ends text second places)
  | .repeated least most body, places =>
    let rounds := match most with
      | some n => n - least
      | none => text.size + 1
    upTo (ends text body) rounds (times (ends text body) least places)

/-- The pattern matches somewhere in the text. -/
def occursIn (p : Pattern) (text : List Char) : Bool :=
  !(p.ends text.toArray (List.range (text.length + 1))).isEmpty

/-- How many states a compiled pattern has, about. -/
def weight : Pattern → Nat
  | .empty => 1
  | .chars n _ => n
  | .between _ => 1
  | .sequence first second => first.weight + second.weight
  | .either first second => first.weight + second.weight + 1
  | .repeated least none body => body.weight * max least 1 + 2
  | .repeated _ (some most) body => body.weight * most + 1

/-- Heavier patterns are refused. -/
def weightLimit : Nat := 10 * Nat.pow 2 20 / 32

end Pattern

end Conformance
