import Conformance.Text.Digits
import Conformance.Toml.Value
import Conformance.Word

/-!
# Bare TOML values

Numbers, truth values, dates and times are written without quotes. Underscores may stand between
digits, one at a time. Only decimal integers have a sign, and they do not start with a zero that
could be left out. Integers are signed 64-bit words.
-/

namespace Conformance.Toml.Bare

/-- A character of bare values. -/
def isPart (c : Char) : Bool :=
  c.isAlphanum || c == '+' || c == '-' || c == '_' || c == '.' || c == ':'

/-- Digits without the underscores between them. -/
def digits? (radix : Nat) (text : List Char) : Option (List Char) :=
  let groups := text.splitOn '_'
  if groups.all fun group => !group.isEmpty && group.all (Text.isDigitBelow radix) then
    some groups.flatten
  else none

/-- Whether there is a minus sign in front, and the text after the sign. -/
def sign : List Char → Bool × List Char
  | '+' :: rest => (false, rest)
  | '-' :: rest => (true, rest)
  | text => (false, text)

/-- A decimal number without a sign. -/
def decimal? (text : List Char) : Option Nat :=
  match text with
  | '0' :: _ :: _ => none
  | _ => (digits? 10 text).bind (Text.number? 10)

/-- An integer of any size. -/
def wideInteger? : List Char → Option Int
  | '0' :: 'x' :: text => ((digits? 16 text).bind (Text.number? 16)).map Int.ofNat
  | '0' :: 'o' :: text => ((digits? 8 text).bind (Text.number? 8)).map Int.ofNat
  | '0' :: 'b' :: text => ((digits? 2 text).bind (Text.number? 2)).map Int.ofNat
  | text =>
    let (negative, text) := sign text
    (decimal? text).map fun n => if negative then -(n : Int) else n

/-- An integer. -/
def integer? (text : List Char) : Option Int :=
  (wideInteger? text).filter Word.isSigned

def isExponent (text : List Char) : Bool := (digits? 10 (sign text).2).isSome

/-- A float. -/
def isFloat (text : List Char) : Bool :=
  let text := (sign text).2
  let isE (c : Char) : Bool := c == 'e' || c == 'E'
  let mantissa := text.takeWhile (!isE ·)
  let whole := mantissa.takeWhile (· != '.')
  let scaled := match text.drop mantissa.length with
    | [] => none
    | _ :: exponent => some (isExponent exponent)
  let split := match mantissa.drop whole.length with
    | [] => none
    | _ :: fraction => some (digits? 10 fraction).isSome
  text == ['i', 'n', 'f'] || text == ['n', 'a', 'n'] ||
    ((decimal? whole).isSome && (scaled.isSome || split.isSome) && scaled.getD true &&
      split.getD true)

/-- The text after two digits that write a number from `low` to `high`. -/
def pair? (low high : Nat) : List Char → Option (List Char)
  | a :: b :: rest => (Text.number? 10 [a, b]).bind fun n =>
      if low ≤ n ∧ n ≤ high then some rest else none
  | _ => none

/-- The text after `c`. -/
def past? (c : Char) : List Char → Option (List Char)
  | d :: rest => if c = d then some rest else none
  | [] => none

/-- The number of days in a month. -/
def days (year month : Nat) : Nat :=
  if month = 2 then if year % 4 = 0 ∧ (year % 100 ≠ 0 ∨ year % 400 = 0) then 29 else 28
  else if month = 4 ∨ month = 6 ∨ month = 9 ∨ month = 11 then 30
  else 31

/-- The text after a date. -/
def date? (text : List Char) : Option (List Char) := do
  let year ← if 4 ≤ text.length then Text.number? 10 (text.take 4) else none
  let text ← past? '-' (text.drop 4)
  let month ← if 2 ≤ text.length then Text.number? 10 (text.take 2) else none
  let text ← past? '-' (← pair? 1 12 text)
  pair? 1 (days year month) text

/-- The text after a time of day. -/
def time? (text : List Char) : Option (List Char) := do
  let text ← past? ':' (← pair? 0 23 text)
  let text ← past? ':' (← pair? 0 59 text)
  let text ← pair? 0 60 text
  match text with
  | '.' :: rest =>
    let fraction := rest.takeWhile Char.isDigit
    if fraction.isEmpty then none else some (rest.drop fraction.length)
  | _ => some text

/-- The difference to universal time, or nothing. -/
def isOffset (text : List Char) : Bool :=
  match text with
  | [] => true
  | ['Z'] => true
  | ['z'] => true
  | c :: rest => (c == '+' || c == '-') &&
      ((pair? 0 23 rest).bind (past? ':')).bind (pair? 0 59) == some []

/-- A date, a time of day, or both. -/
def isMoment (text : List Char) : Bool :=
  time? text == some [] ||
    match date? text with
    | none => false
    | some [] => true
    | some (delimiter :: rest) =>
      (delimiter == 'T' || delimiter == 't' || delimiter == ' ') && (time? rest).any isOffset

/-- The value that a bare text writes. -/
def value? (text : List Char) : Option Value :=
  if text == "true".toList || text == "false".toList then some .other
  else
    match integer? text with
    | some n => some (.integer n)
    | none => if isFloat text || isMoment text then some .other else none

/-- A bare text at the start of the text; a blank may stand between a date and a time. -/
def take (text : List Char) : List Char × List Char :=
  let word := text.takeWhile isPart
  let rest := text.drop word.length
  match rest with
  | ' ' :: c :: more =>
    if date? word == some [] && c.isDigit then
      let time := (c :: more).takeWhile isPart
      (word ++ ' ' :: time, (c :: more).drop time.length)
    else (word, rest)
  | _ => (word, rest)

end Conformance.Toml.Bare
