import Conformance.Pattern.Basic

/-!
# Line patterns

The patterns of `grep`. In a basic pattern plus, question mark and bar have their meaning behind a
backslash, in an extended one without it. An asterisk with nothing in front of it stands for itself.
-/

namespace Conformance.Shell.LinePattern

/-- How a pattern is spelled. -/
inductive Dialect where
  | fixed
  | basic
  | extended
  deriving DecidableEq, Repr

/-- A sign of a pattern. -/
inductive Sign where
  | one (set : Char → Bool)
  | start
  | finish
  | repeated (least : Nat) (most : Option Nat)
  | bar

/-- The sets that have names. -/
def named? : String → Option (Char → Bool)
  | "alpha" => some Char.isAlpha
  | "digit" => some Char.isDigit
  | "alnum" => some Char.isAlphanum
  | "upper" => some Char.isUpper
  | "lower" => some Char.isLower
  | "space" => some fun c => c == ' ' || (0x09 ≤ c.val && c.val ≤ 0x0d)
  | "blank" => some fun c => c == ' ' || c == '\t'
  | "punct" => some fun c => 0x21 ≤ c.val && c.val ≤ 0x7e && !c.isAlphanum
  | "xdigit" => some fun c => c.isDigit || ('a' ≤ c && c ≤ 'f') || ('A' ≤ c && c ≤ 'F')
  | _ => none

/-- The set that the text inside brackets names, and the text after the brackets. -/
def bracketed? (first : Bool) : Nat → List Char → Option ((Char → Bool) × List Char)
  | 0, _ => none
  | _ + 1, [] => none
  | n + 1, '[' :: ':' :: rest =>
    match named? (String.ofList (rest.takeWhile (· ≠ ':'))), rest.dropWhile (· ≠ ':') with
    | some set, ':' :: ']' :: rest =>
      (bracketed? false n rest).map fun (more, rest) => (fun c => set c || more c, rest)
    | _, _ => none
  | n + 1, c :: rest =>
    if c = ']' ∧ !first then some (fun _ => false, rest)
    else match rest with
      | '-' :: d :: rest =>
        if d = ']' then
          (bracketed? false n (d :: rest)).map fun (more, rest) =>
            (fun x => x == c || x == '-' || more x, rest)
        else
          (bracketed? false n rest).map fun (more, rest) =>
            (fun x => (c ≤ x && x ≤ d) || more x, rest)
      | rest => (bracketed? false n rest).map fun (more, rest) => (fun x => x == c || more x, rest)

/-- The signs of a pattern; `first` says whether none has come yet. -/
def signs? (extended first : Bool) : Nat → List Char → Option (List Sign)
  | 0, _ => none
  | _ + 1, [] => some []
  | n + 1, c :: rest =>
    let add (sign : Sign) (rest : List Char) : Option (List Sign) :=
      (signs? extended false n rest).map (sign :: ·)
    let literal (c : Char) (rest : List Char) : Option (List Sign) := add (.one (· == c)) rest
    let special (c : Char) (rest : List Char) : Option (List Sign) :=
      match c with
      | '+' => add (.repeated 1 none) rest
      | '?' => add (.repeated 0 (some 1)) rest
      | '|' => (signs? extended true n rest).map (.bar :: ·)
      | c => literal c rest
    match c, rest with
    | '\\', d :: rest =>
      if extended || !(['+', '?', '|'].contains d) then literal d rest else special d rest
    | '\\', [] => none
    | '.', rest => add (.one fun _ => true) rest
    | '[', '^' :: rest =>
      match bracketed? true n rest with
      | some (set, rest) => add (.one fun c => !set c) rest
      | none => none
    | '[', rest =>
      match bracketed? true n rest with
      | some (set, rest) => add (.one set) rest
      | none => none
    | '*', rest => if first then literal '*' rest else add (.repeated 0 none) rest
    | '^', rest =>
      if first || extended then (signs? extended true n rest).map (.start :: ·)
      else literal '^' rest
    | '$', rest => if rest.isEmpty || extended then add .finish rest else literal '$' rest
    | c, rest => if extended then special c rest else literal c rest

/-- A set, with all that differs by case if `caseless`. -/
def fold (caseless : Bool) (set : Char → Bool) : Char → Bool :=
  if caseless then fun c => set c || set c.toLower || set c.toUpper else set

/-- The pattern of signs, with the pattern in front of them and its last part. -/
def build (caseless : Bool) (front last : Pattern) : List Sign → Pattern
  | [] => .sequence front last
  | .one set :: rest =>
    build caseless (.sequence front last) (.chars 1 (fold caseless set)) rest
  | .start :: rest =>
    build caseless (.sequence front last) (.between fun before _ => before.isNone) rest
  | .finish :: rest =>
    build caseless (.sequence front last) (.between fun _ after => after.isNone) rest
  | .repeated least most :: rest => build caseless front (.repeated least most last) rest
  | .bar :: rest => .either (.sequence front last) (build caseless .empty .empty rest)

/-- The pattern of a text. -/
def ofText? (dialect : Dialect) (caseless : Bool) (text : String) : Option Pattern :=
  match dialect with
  | .fixed => some (build caseless .empty .empty (text.toList.map fun c => .one (· == c)))
  | _ =>
    (signs? (dialect == .extended) true (text.length + 2) text.toList).map
      (build caseless .empty .empty)

/-- The pattern for whole lines only. -/
def whole (p : Pattern) : Pattern :=
  .sequence (.between fun before _ => before.isNone)
    (.sequence p (.between fun _ after => after.isNone))

end Conformance.Shell.LinePattern
