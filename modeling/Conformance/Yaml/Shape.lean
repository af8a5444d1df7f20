import Conformance.Yaml.Node

/-!
# Taking YAML documents apart

Readers for documents that are records of texts. A plain scalar that is empty or spells null is no
value where a value is optional, and an empty plain scalar does for an empty collection. Every
scalar is a text.
-/

namespace Conformance.Yaml.Document

variable {α : Type}

/-- The spellings of null. -/
def isNull (text : String) : Bool := ["null", "Null", "NULL", "~"].contains text

/-- The text of a scalar. -/
def text? (d : Document) (node : Node) : Option String :=
  match d.follow node with
  | some (.scalar _ _ text) => some text
  | _ => none

/-- No value, or a value that `decode` takes. -/
def optional? (d : Document) (decode : Node → Option α) (node : Node) : Option (Option α) :=
  match d.follow node with
  | some (.scalar true none text) =>
    if text.isEmpty || isNull text then some none else (decode node).map some
  | some (.scalar true (some "tag:yaml.org,2002:null") text) =>
    if isNull text then some none else none
  | _ => (decode node).map some

/-- The values of a sequence, taken by `decode`. -/
def list? (d : Document) (decode : Node → Option α) (node : Node) : Option (List α) :=
  match d.follow node with
  | some (.sequence items) => items.mapM decode
  | some (.scalar true _ "") => some []
  | _ => none

/-- The values of a mapping by the texts of their keys, in order. -/
def members? (d : Document) (node : Node) : Option (List (String × Node)) :=
  match d.follow node with
  | some (.mapping pairs) => pairs.mapM fun (key, value) => (d.text? key).map (·, value)
  | some (.scalar true _ "") => some []
  | _ => none

/-- The only value of a key, if it has one. -/
def only (members : List (String × Node)) (key : String) : Option (Option Node) :=
  match members.filter (·.1 == key) with
  | [] => some none
  | [(_, value)] => some (some value)
  | _ => none

/-- The values of the fields of a record, `none` for an absent one. -/
def fields? (d : Document) (names : List String) (node : Node) : Option (List (Option Node)) := do
  let members ← d.members? node
  names.mapM (only members)

/-- A field that may be absent or without a value. -/
def absent? (d : Document) (decode : Node → Option α) : Option Node → Option (Option α)
  | none => some none
  | some node => d.optional? decode node

end Conformance.Yaml.Document
