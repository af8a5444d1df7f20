import Conformance.FileTree
import Conformance.Json.Reader
import Conformance.Json.Writer
import Conformance.Text.Blank

/-!
# Records of files

A file tree as a JSON value: a directory is an object with its entries, a text file is a string, and
any other file is the array of its octets. Names that are not UTF-8 are recorded as they are
printed. What is sealed is a Boolean, true for a directory, and what is neither file nor directory
is null.
-/

namespace Conformance.FileTree

/-- The octet of a number. -/
def octet? : Json → Option UInt8
  | .number (.integer n) => if 0 ≤ n ∧ n < 256 then some n.toNat.toUInt8 else none
  | _ => none

mutual

/-- The file tree of a record. -/
def ofJson? : Json → Option FileTree
  | .string (some text) => some (.file (Text.Utf8.octets text))
  | .array items => (items.mapM octet?).map .file
  | .object members => (entriesOfJson? members).map .directory
  | .bool isDirectory => some (if isDirectory then .sealedDirectory else .sealedFile)
  | .null => some .special
  | _ => none

/-- The entries of a record's members. -/
def entriesOfJson? : List (Option String × Json) → Option (List (FileName × FileTree))
  | [] => some []
  | (some name, value) :: rest => do
    let node ← ofJson? value
    return (Text.Utf8.octets name, node) :: (← entriesOfJson? rest)
  | (none, _) :: _ => none

end

mutual

/-- The record of a file tree. -/
def toJson : FileTree → Json
  | .file octets =>
    match Text.Utf8.text? octets with
    | some text => .text text
    | none => .array (octets.map fun b => .count b.toNat)
  | .directory entries => .object (entriesToJson entries)
  | .sealedFile => .bool false
  | .sealedDirectory => .bool true
  | .special => .null

/-- The members of a record. -/
def entriesToJson : List (FileName × FileTree) → List (Option String × Json)
  | [] => []
  | (name, node) :: rest =>
    (some (Text.Utf8.lossyText name), node.toJson) :: entriesToJson rest

end

/-- The file tree that a text records, where no text records an empty directory. -/
def ofText? (text : String) : Option FileTree :=
  if (Text.trim text.toList).isEmpty then some .empty else (Json.read text.toList).bind ofJson?

end Conformance.FileTree
