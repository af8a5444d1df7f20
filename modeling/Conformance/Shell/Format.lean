import Conformance.Shell.Arithmetic
import Conformance.Text.Utf8

/-!
# Formatted output

A format is octets and conversions. It is used again as long as arguments are left, and what it
lacks of arguments counts as empty. Escapes write octets, so that a text need not be well-formed.
-/

namespace Conformance.Shell.Format

open Text.Utf8 (octets encode)

def octal (digits : List Char) : UInt8 := ((Text.number? 8 digits).getD 0).toUInt8

/-- The octal digits at the start of a text, `most` at most. -/
def octalDigits (most : Nat) (text : List Char) : List Char :=
  (text.take most).takeWhile (Text.isDigitBelow 8)

/-- What an escape writes, by the text after its backslash, and the text after it. -/
def escape (text : List Char) : List UInt8 × List Char :=
  match text with
  | '\\' :: rest => ([0x5c], rest)
  | '"' :: rest => ([0x22], rest)
  | 'a' :: rest => ([0x07], rest)
  | 'b' :: rest => ([0x08], rest)
  | 'e' :: rest => ([0x1b], rest)
  | 'f' :: rest => ([0x0c], rest)
  | 'n' :: rest => ([0x0a], rest)
  | 'r' :: rest => ([0x0d], rest)
  | 't' :: rest => ([0x09], rest)
  | 'v' :: rest => ([0x0b], rest)
  | text =>
    let digits := octalDigits 3 text
    if digits.isEmpty then ([0x5c], text) else ([octal digits], text.drop digits.length)

/-- The text of an argument with its escapes replaced, and whether one of them ends all output. -/
def unescape : Nat → List Char → List UInt8 × Bool
  | 0, _ => ([], false)
  | _, [] => ([], false)
  | _ + 1, '\\' :: 'c' :: _ => ([], true)
  | n + 1, '\\' :: '0' :: rest =>
    let digits := octalDigits 3 rest
    let (more, ended) := unescape n (rest.drop digits.length)
    (octal digits :: more, ended)
  | n + 1, '\\' :: rest =>
    let (front, rest) := escape rest
    let (more, ended) := unescape n rest
    (front ++ more, ended)
  | n + 1, c :: rest =>
    let (more, ended) := unescape n rest
    (encode [c] ++ more, ended)

/-- How a conversion is laid out. -/
structure Layout where
  left : Bool
  zeros : Bool
  plus : Bool
  space : Bool
  alternate : Bool
  width : Nat
  precision? : Option Nat

/-- A part of a format. -/
inductive Item where
  | fixed (l : List UInt8)
  | conversion (layout : Layout) (kind : Char)

def flags : List Char := ['-', '0', '+', ' ', '#']

/-- The parts of a format. -/
def items : Nat → List Char → List Item
  | 0, _ => []
  | _, [] => []
  | n + 1, '%' :: '%' :: rest => .fixed [0x25] :: items n rest
  | n + 1, '%' :: rest =>
    let given := rest.takeWhile flags.contains
    let rest := rest.dropWhile flags.contains
    let width := rest.takeWhile Char.isDigit
    let rest := rest.dropWhile Char.isDigit
    let (precision?, rest) := match rest with
      | '.' :: rest =>
        (some (Text.decimal (rest.takeWhile Char.isDigit)), rest.dropWhile Char.isDigit)
      | rest => (none, rest)
    let layout : Layout :=
      ⟨given.contains '-', given.contains '0', given.contains '+', given.contains ' ',
        given.contains '#', Text.decimal width, precision?⟩
    match rest with
    | kind :: rest => .conversion layout kind :: items n rest
    | [] => [.fixed [0x25]]
  | n + 1, '\\' :: rest =>
    let (front, rest) := escape rest
    .fixed front :: items n rest
  | n + 1, c :: rest => .fixed (encode [c]) :: items n rest

/-- Octets filled up to the width of a layout. -/
def Layout.fill (l : Layout) (text : List UInt8) : List UInt8 :=
  let gap := List.replicate (l.width - text.length) (0x20 : UInt8)
  if l.left then text ++ gap else gap ++ text

/-- The digits of a number. -/
def digits (radix : Nat) (upper : Bool) (n : Nat) : List Char :=
  (Nat.toDigits radix n).map fun c => if upper then c.toUpper else c

/-- A sign and digits in a layout. -/
def Layout.number (l : Layout) (sign : String) (digits : List Char) : List UInt8 :=
  let least := match l.precision? with
    | some n => n
    | none => if l.zeros && !l.left then l.width - sign.length else 0
  l.fill (octets sign ++ encode (List.replicate (least - digits.length) '0' ++ digits))

/-- The number that an argument writes, and whether it writes one. -/
def argument (text : String) : Int × Bool :=
  match text.toList with
  | [] => (0, true)
  | '\x27' :: c :: _ => (c.val.toNat, true)
  | '"' :: c :: _ => (c.val.toNat, true)
  | text =>
    match Arithmetic.number? text with
    | some n => (n, text.getLast? ≠ some ' ')
    | none => (0, false)

/-- What is written so far, what stands against it, and what is left of the arguments. -/
structure Progress where
  /-- Latest first. -/
  written : List (List UInt8)
  complaints : List String
  arguments : List String
  ended : Bool
  status : Nat

/-- The part of a format written. -/
def Item.write (p : Progress) : Item → Progress
  | .fixed l => if p.ended then p else { p with written := l :: p.written }
  | .conversion l kind =>
    if p.ended then p
    else
      let text := p.arguments.headD ""
      let p := { p with arguments := p.arguments.tail }
      let put (l : List UInt8) (p : Progress) : Progress := { p with written := l :: p.written }
      let (n, valid) := argument text
      let checked (p : Progress) : Progress :=
        if valid then p
        else
          { p with
            complaints := (text ++ ": expected numeric value") :: p.complaints, status := 1 }
      let cut (l' : List UInt8) : List UInt8 := match l.precision? with
        | some n => l'.take n
        | none => l'
      let plus := if n < 0 then "-" else if l.plus then "+" else if l.space then " " else ""
      let word := Word.unsigned n
      match kind with
      | 's' => put (l.fill (cut (octets text))) p
      | 'b' =>
        let (text, ended) := unescape (text.length + 1) text.toList
        { put (l.fill (cut text)) p with ended }
      | 'c' => put (l.fill ((octets text).take 1)) p
      | 'd' => checked (put (l.number plus (digits 10 false n.natAbs)) p)
      | 'i' => checked (put (l.number plus (digits 10 false n.natAbs)) p)
      | 'u' => checked (put (l.number "" (digits 10 false word)) p)
      | 'o' => checked (put (l.number (if l.alternate then "0" else "") (digits 8 false word)) p)
      | 'x' => checked (put (l.number (if l.alternate then "0x" else "") (digits 16 false word)) p)
      | 'X' => checked (put (l.number (if l.alternate then "0X" else "") (digits 16 true word)) p)
      | kind =>
        { p with
          complaints := ("%" ++ String.ofList [kind] ++ ": invalid directive") :: p.complaints
          ended := true
          status := 2 }

/-- The format written until no argument is left. -/
def writeAll (format : List Item) : Nat → Progress → Progress
  | 0, p => p
  | n + 1, p =>
    let q := format.foldl Item.write p
    if q.ended || q.arguments.isEmpty || q.arguments.length = p.arguments.length then q
    else writeAll format n q

/-- What a format and its arguments write, what is wrong with them, and the status. -/
def write (format : String) (arguments : List String) : List UInt8 × List String × Nat :=
  let p := writeAll (items (format.length + 1) format.toList) (arguments.length + 1)
    ⟨[], [], arguments, false, 0⟩
  (p.written.reverse.flatten, p.complaints.reverse, p.status)

/-- What `echo` of a shell writes: its arguments with blanks between them, escapes replaced. -/
def echo (arguments : List String) : List UInt8 :=
  let (arguments, last) := match arguments with
    | "-n" :: rest => (rest, [])
    | arguments => (arguments, [(0x0a : UInt8)])
  let text := String.intercalate " " arguments
  let (text, ended) := unescape (text.length + 1) text.toList
  if ended then text else text ++ last

/-- What the command `echo` writes: its arguments with blanks between them. -/
def plainEcho (arguments : List String) : List UInt8 :=
  match arguments with
  | "-n" :: rest => octets (String.intercalate " " rest)
  | "-e" :: rest => echo rest
  | arguments => octets (String.intercalate " " arguments ++ "\n")

end Conformance.Shell.Format
