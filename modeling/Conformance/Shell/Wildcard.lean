/-!
# Wildcards

Patterns for whole words: an asterisk stands for any text, a question mark for any character, and
brackets for one character of a set. What is quoted stands for itself.
-/

namespace Conformance.Shell

/-- A part of a pattern. -/
inductive Wildcard where
  | anything
  | one (set : Char → Bool)

namespace Wildcard

/-- The set that the items inside brackets name. -/
def setOf : List (Char × Bool) → Char → Bool
  | [], _ => false
  | (low, _) :: ('-', false) :: (high, _) :: rest, c => (low ≤ c && c ≤ high) || setOf rest c
  | (d, _) :: rest, c => c == d || setOf rest c

/-- The items up to a bracket that is not the first of them, and what follows it. -/
def bracketed? (items : List (Char × Bool)) : Option (List (Char × Bool) × List (Char × Bool)) :=
  match items with
  | [] => none
  | first :: rest =>
    match rest.dropWhile (· ≠ (']', false)) with
    | [] => none
    | _ :: after => some (first :: rest.takeWhile (· ≠ (']', false)), after)

/-- The pattern of characters, each with whether it is quoted; `n` is at least their number. -/
def ofItems : Nat → List (Char × Bool) → List Wildcard
  | _, [] => []
  | 0, _ => []
  | n + 1, ('*', false) :: rest => .anything :: ofItems n rest
  | n + 1, ('?', false) :: rest => .one (fun _ => true) :: ofItems n rest
  | n + 1, ('[', false) :: rest =>
    let (negated, inside) := match rest with
      | ('!', false) :: inside => (true, inside)
      | inside => (false, inside)
    match bracketed? inside with
    | some (items, after) => .one (fun c => setOf items c != negated) :: ofItems n after
    | none => .one (· == '[') :: ofItems n rest
  | n + 1, (c, _) :: rest => .one (· == c) :: ofItems n rest

/-- The pattern of characters, each with whether it is quoted. -/
def pattern (items : List (Char × Bool)) : List Wildcard := ofItems items.length items

/-- What `rest` says of some end of the text. -/
def someEnd (rest : List Char → Bool) : List Char → Bool
  | [] => rest []
  | c :: text => rest (c :: text) || someEnd rest text

/-- The pattern matches the whole text. -/
def accepts : List Wildcard → List Char → Bool
  | [], text => text.isEmpty
  | .one set :: rest, text =>
    match text with
    | [] => false
    | c :: text => set c && accepts rest text
  | .anything :: rest, text => someEnd (accepts rest) text

/-- The numbers of characters at the start of the text that the pattern matches, shortest first. -/
def fronts (p : List Wildcard) (text : List Char) : List Nat :=
  (List.range (text.length + 1)).filter fun n => accepts p (text.take n)

/-- The text without a match of the pattern at its start. -/
def dropFront (p : List Wildcard) (longest : Bool) (text : List Char) : List Char :=
  let lengths := fronts p text
  match if longest then lengths.getLast? else lengths.head? with
  | some n => text.drop n
  | none => text

/-- The text without a match of the pattern at its end. -/
def dropBack (p : List Wildcard) (longest : Bool) (text : List Char) : List Char :=
  let kept := (List.range (text.length + 1)).filter fun n => accepts p (text.drop n)
  match if longest then kept.head? else kept.getLast? with
  | some n => text.take n
  | none => text

end Wildcard

end Conformance.Shell
