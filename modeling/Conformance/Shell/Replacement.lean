import Conformance.Shell.Format
import Conformance.Shell.Stream

/-!
# Octet replacement

The sets of `tr` and what they do to a stream. A set is spelled with ranges, escapes and names of
classes. An octet of the first set becomes the one at its place in the second set, whose last octet
stands for all places beyond its end.
-/

namespace Conformance.Shell.Replacement

/-- The octets of the classes that have names. -/
def named? (name : String) : Option (List UInt8) :=
  let octets (p : Char → Bool) : List UInt8 :=
    ((List.range 128).filter fun n => p (Char.ofNat n)).map (·.toUInt8)
  match name with
  | "upper" => some (octets Char.isUpper)
  | "lower" => some (octets Char.isLower)
  | "alpha" => some (octets Char.isAlpha)
  | "digit" => some (octets Char.isDigit)
  | "alnum" => some (octets Char.isAlphanum)
  | "space" => some [0x09, 0x0a, 0x0b, 0x0c, 0x0d, 0x20]
  | "blank" => some [0x09, 0x20]
  | "punct" => some (octets fun c => 0x21 ≤ c.val && c.val ≤ 0x7e && !c.isAlphanum)
  | "cntrl" => some (octets fun c => c.val < 0x20 || c.val == 0x7f)
  | "print" => some (octets fun c => 0x20 ≤ c.val && c.val ≤ 0x7e)
  | _ => none

/-- The octets of one item of a set that is no class, and the text after it. -/
def item : List Char → List UInt8 × List Char
  | '\\' :: rest =>
    match Format.escape rest with
    | ([0x5c], '\\' :: rest) => ([0x5c], rest)
    | (front, []) => (front, [])
    | (front, c :: after) =>
      if front = [0x5c] ∧ rest.head? ≠ some '\\' then (Text.Utf8.encode [c], after)
      else (front, c :: after)
  | c :: rest => (Text.Utf8.encode [c], rest)
  | [] => ([], [])

/-- The octets from one to another. -/
def range (first last : UInt8) : List UInt8 :=
  (List.range (last.toNat + 1 - first.toNat)).map fun i => (first.toNat + i).toUInt8

/-- The octets of a set, with `n` more than its length. -/
def octets : Nat → List Char → List UInt8
  | 0, _ => []
  | _, [] => []
  | n + 1, '[' :: ':' :: rest =>
    match named? (String.ofList (rest.takeWhile (· ≠ ':'))), rest.dropWhile (· ≠ ':') with
    | some front, ':' :: ']' :: after => front ++ octets n after
    | _, _ => 0x5b :: octets n (':' :: rest)
  | n + 1, text =>
    match item text with
    | ([first], '-' :: c :: rest) =>
      match item (c :: rest) with
      | ([last], after) => range first last ++ octets n after
      | _ => first :: octets n ('-' :: c :: rest)
    | (front, after) => front ++ octets n after

def setOf (text : String) : List UInt8 := octets (text.length + 1) text.toList

/-- The octet at the place of `b` in the second set. -/
def image (first second : List UInt8) (b : UInt8) : UInt8 :=
  match first.reverse.idxOf? b with
  | none => b
  | some i =>
    let place := first.length - 1 - i
    (second[place]?).getD (second.getLast?.getD b)

/-- The octets without repetitions of those in a set. -/
def squeeze (set : List UInt8) (last : Option UInt8) : List UInt8 → List UInt8
  | [] => []
  | b :: rest =>
    if last = some b ∧ set.contains b then squeeze set last rest
    else b :: squeeze set (some b) rest

/-- What is asked for. -/
structure Options where
  complement : Bool
  delete : Bool
  squeeze : Bool
  sets : List String

/-- The options and sets of the arguments. -/
def Options.ofArguments : List String → Options
  | [] => ⟨false, false, false, []⟩
  | argument :: rest =>
    match argument.toList with
    | '-' :: c :: more =>
      let o := ofArguments rest
      let letters := c :: more
      { o with
        complement := o.complement || letters.contains 'c' || letters.contains 'C'
        delete := o.delete || letters.contains 'd'
        squeeze := o.squeeze || letters.contains 's' }
    | _ => ⟨false, false, false, argument :: rest⟩

/-- What is wrong with the number of sets, if it is wrong. -/
def Options.refusal? (o : Options) : Option String :=
  let hint := "\nTry 'tr --help' for more information."
  let least := if o.delete = o.squeeze then 2 else 1
  let most := if o.delete && !o.squeeze then 1 else 2
  match o.sets with
  | [] => some ("missing operand" ++ hint)
  | first :: _ =>
    if o.sets.length < least then
      some ("missing operand after ‘" ++ first ++ "’\nTwo strings must be given when " ++
        (if o.squeeze then "both deleting and squeezing repeats." else "translating.") ++ hint)
    else (o.sets[most]?).map fun extra =>
      "extra operand ‘" ++ extra ++ "’" ++
        (if o.sets.length = 2 then
          "\nOnly one string may be given when deleting without squeezing repeats."
         else "") ++ hint

def others (set : List UInt8) : List UInt8 := (range 0 255).filter (!set.contains ·)

/-- The stream with its octets replaced. -/
def apply (o : Options) (s : Stream) : Option Stream :=
  let set (text : String) : List UInt8 := if o.complement then others (setOf text) else setOf text
  match o.sets with
  | [] => none
  | [first] =>
    let named := set first
    let deleted (b : UInt8) : Bool := o.delete && named.contains b
    let s := s.filterMap fun b => if deleted b then none else some b
    if o.squeeze && !o.delete then s.all?.map fun l => .ofOctets (squeeze named none l)
    else some s
  | first :: second :: _ =>
    let domain := set first
    let images := setOf second
    let s := s.filterMap fun b =>
      if o.delete then if domain.contains b then none else some b else some (image domain images b)
    if o.squeeze then s.all?.map fun l => .ofOctets (squeeze images none l) else some s

end Conformance.Shell.Replacement
