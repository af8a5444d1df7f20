import Conformance.Case.Frontmatter
import Conformance.Case.TagHeader

/-!
# Headers

A header is the first thing in a source that is neither blank nor a `//` comment, and it is a block
comment: one that opens with `/*---` is frontmatter, any other is tagged.
-/

namespace Conformance.Header

/-- The text after the line end of a `//` comment. -/
def afterLine (text : List Char) : List Char := (text.dropWhile (· ≠ '\n')).tail

theorem length_afterLine_le (text : List Char) : (afterLine text).length ≤ text.length := by
  rw [afterLine, List.length_tail]
  exact Nat.le_trans (Nat.sub_le ..) (List.dropWhile_sublist _).length_le

/-- The text without the blanks and `//` comments at its start. -/
def skipComments (text : List Char) : List Char :=
  match _h : Text.trimStart text with
  | '/' :: '/' :: rest => skipComments (afterLine rest)
  | rest => rest
termination_by text.length
decreasing_by
  have hlen : ('/' :: '/' :: rest).length ≤ text.length :=
    _h ▸ (List.dropWhile_sublist Text.isBlank).length_le
  have := length_afterLine_le rest
  simp only [List.length_cons] at hlen
  omega

/-- The source from its header on. -/
def start (source : List Char) : List Char :=
  skipComments (source.dropWhile (· == '\ufeff'))

/-- The metadata in the header of the case at a path. -/
def parse (source : List Char) (path : Path) : Except HeaderError Metadata :=
  match start source with
  | '/' :: '*' :: '-' :: '-' :: '-' :: rest =>
    Frontmatter.parse ('/' :: '*' :: '-' :: '-' :: '-' :: rest) path
  | '/' :: '*' :: rest => TagHeader.parse rest
  | _ => .error .missing

end Conformance.Header
