import Conformance.Unicode.Binary
import Conformance.Unicode.Script
import Conformance.Text.Blank

/-!
# Properties by name

Properties are looked up by loose names: case, spaces, hyphens and underscores do not count, and
neither does `is` in front. A name stands for a binary property, a general category or a script, in
this order, or for one of the two latter when it says so.
-/

namespace Conformance.Unicode

abbrev CharSet := Char → Bool

namespace Property

/-- The name without what does not count. -/
def normalize (name : List Char) : List Char :=
  let lower := name.map Char.toLower
  let bare := if ['i', 's'].isPrefixOf lower then lower.drop 2 else lower
  let kept := bare.filter fun c => c != ' ' && c != '_' && c != '-' && c.val < 0x80
  if bare.length < lower.length && kept == ['c'] then "isc".toList else kept

/-- The characters of a general category. -/
def category? (name : String) : Option CharSet :=
  match name with
  | "any" => some fun _ => true
  | "assigned" => some fun c => !Category.holds "Cn" c
  | "ascii" => some fun c => c.val < 0x80
  | _ => (Category.names.find? fun (_, names) => names.contains name).map fun (short, _) =>
    Category.holds short

/-- The characters of a script. -/
def script? (name : String) : Option CharSet :=
  (Script.names.find? fun (_, names) => names.contains name).map fun (short, _) c =>
    Script.of c == short

/-- The characters of a property. Three names of categories are names of properties without a
set as well. -/
def find? (name : List Char) : Option CharSet :=
  let name := String.ofList (normalize name)
  let binary := if ["cf", "sc", "lc"].contains name then none else Binary.find? name
  match binary with
  | some p => some p.holds
  | none => (category? name).or (script? name)

/-- The characters for which a property has a value. -/
def withValue? (property value : List Char) : Option CharSet :=
  let value := String.ofList (normalize value)
  match String.ofList (normalize property) with
  | "gc" => category? value
  | "generalcategory" => category? value
  | "sc" => script? value
  | "script" => script? value
  | _ => none

end Property

/-- Decimal digits. -/
def isDigit : CharSet := Category.holds "Nd"

/-- Letters, marks, decimal digits, connecting punctuation and joiners. -/
def isWord (c : Char) : Bool :=
  let category := Category.of c
  category.startsWith "L" || category.startsWith "M" || ["Nl", "Nd", "Pc"].contains category ||
    c == '\u200c' || c == '\u200d' ||
    (category == "So" && (Binary.find? "alphabetic").any (·.holds c))

/-- Letters and what else counts as alphabetic. -/
def isAlphabetic (c : Char) : Bool := (Binary.find? "alphabetic").any (·.holds c)

/-- Numbers of any kind. -/
def isNumeric : CharSet := Category.holds "N"

end Conformance.Unicode
