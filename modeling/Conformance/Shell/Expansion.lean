import Conformance.Shell.Session
import Conformance.Shell.Wildcard

/-!
# Fields

What the pieces of a word stand for is put together from atoms. An atom is a character that is
quoted, spelled bare, or came out of something; or a mark that a field is there although it may be
empty, or that a field ends. Blanks that came out of something end a field as well.
-/

namespace Conformance.Shell

/-- Where a character of a field comes from. -/
inductive Origin where
  | quoted
  | bare
  | replaced
  deriving DecidableEq, Repr

/-- A part of what a word stands for. -/
inductive Atom where
  | char (origin : Origin) (c : Char)
  /-- There is a field here, even if it is empty. -/
  | present
  /-- A field ends here. -/
  | cut
  deriving DecidableEq, Repr

namespace Atom

/-- The atoms of the value of something. -/
def ofValue (quoted : Bool) (value : List Char) : List Atom :=
  if quoted then .present :: value.map (.char .quoted) else value.map (.char .replaced)

/-- The atoms of all arguments of a shell. -/
def ofArguments (quoted : Bool) (arguments : List String) : List Atom :=
  ((arguments.map fun a => ofValue quoted a.toList).intersperse [.cut]).flatten

/-- The characters of atoms. -/
def text (atoms : List Atom) : List Char :=
  atoms.filterMap fun
    | .char _ c => some c
    | .present => none
    | .cut => some ' '

/-- The characters of atoms, with whether they stand for themselves in a pattern. -/
def items (atoms : List Atom) : List (Char × Bool) :=
  atoms.filterMap fun
    | .char origin c => some (c, origin == .quoted)
    | _ => none

/-- `fields` when `held`, reversed, is the part of the first field already read. -/
def fieldsFrom (held : Option (List Char)) : List Atom → List (List Char)
  | [] => (held.map List.reverse).toList
  | .present :: rest => fieldsFrom (some (held.getD [])) rest
  | .cut :: rest => (held.map List.reverse).toList ++ fieldsFrom none rest
  | .char origin c :: rest =>
    if origin = .replaced ∧ (c = ' ' ∨ c = '\t' ∨ c = '\n') then
      (held.map List.reverse).toList ++ fieldsFrom none rest
    else fieldsFrom (some (c :: held.getD [])) rest

def fields (atoms : List Atom) : List String := (fieldsFrom none atoms).map String.ofList

end Atom

end Conformance.Shell
