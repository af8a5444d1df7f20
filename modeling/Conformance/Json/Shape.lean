import Conformance.Json.Basic
import Conformance.Word

/-!
# Taking values apart

Readers for the shapes that reports and engine results are made of. A record is an object whose
known fields each occur at most once, whatever else it holds, or an array of all its fields in
order. A choice without content is its name, or an object from its name to `null`.

A tagged value is taken as a whole before its tag is looked at. So the whole of it has to be sound
and may be nested only so deep, members that nobody asks for included.
-/

namespace Conformance.Json

variable {α : Type}

/-- Values may be nested less than this deep where they are taken as a whole. -/
def depthLimit : Nat := 128

/-- The text of a string. -/
def text? : Json → Option String
  | .string t => t
  | _ => none

/-- An unsigned integer below `2 ^ 64`. -/
def count? : Json → Option Nat
  | .number (.integer n) => if 0 ≤ n ∧ n < Word.size then some n.toNat else none
  | _ => none

/-- `null`, or a value that `decode` takes. -/
def optional? (decode : Json → Option α) : Json → Option (Option α)
  | .null => some none
  | value => (decode value).map some

/-- A list of values that `decode` takes. -/
def list? (decode : Json → Option α) : Json → Option (List α)
  | .array items => items.mapM decode
  | _ => none

/-- The members of an object, in order, with names that are texts. -/
def members : Json → Option (List (String × Json))
  | .object members => members.mapM fun (name, value) => name.map (·, value)
  | _ => none

/-- The only value of a field, if it has one. -/
def only (members : List (String × Json)) (name : String) : Option (Option Json) :=
  match members.filter (·.1 == name) with
  | [] => some none
  | [(_, value)] => some (some value)
  | _ => none

/-- The fields of a record, an absent one as `none`. -/
def fields? (names : List String) : Json → Option (List (Option Json))
  | .array items => if items.length = names.length then some (items.map some) else none
  | value => do
    let members ← value.members
    names.mapM (only members)

/-- A field that must be there. -/
def required? (decode : Json → Option α) (field : Option Json) : Option α := field.bind decode

/-- A field that may be absent or `null`. -/
def absent? (decode : Json → Option α) : Option Json → Option (Option α)
  | none => some none
  | some value => optional? decode value

/-- The name of a choice without content. -/
def choice? : Json → Option String
  | .string t => t
  | .object [(name, .null)] => name
  | _ => none

/-- The name of a choice without content inside a value taken as a whole, where an empty object
does for `null`. -/
def heldChoice? : Json → Option String
  | .object [(name, .object [])] => name
  | value => value.choice?

/-- The value can be taken as a whole inside `outer` arrays and objects. -/
def whole (outer : Nat) (value : Json) : Bool :=
  value.sound && decide (outer + value.depth < depthLimit)

/-- The tag of a tagged value and what is left of it: the members without the tag, or the items
after the first. -/
def tagged? (tag : String) (outer : Nat) (value : Json) : Option (String × Json) :=
  if value.whole outer then
    match value with
    | .array (first :: rest) => first.text?.map (·, .array rest)
    | _ => do
      let members ← value.members
      match ← only members tag with
      | some name =>
        return (← name.text?, .record (members.filter fun (name, _) => name != tag))
      | none => none
  else none

/-- What a choice without content may leave beside its tag: any members, but no items. -/
def noContent? : Json → Option Unit
  | .array (_ :: _) => none
  | _ => some ()

end Conformance.Json
