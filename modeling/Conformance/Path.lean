import Conformance.Text.Utf8

/-!
# Paths

A path is kept as it was spelled, in octets, and these need not be UTF-8. It is printed with U+FFFD
for whatever is not, so paths that differ may be printed alike.

Paths are compared by their parts. The parts are what stands between slashes, without empty ones and
without dots, except for a dot that the path starts with. So `a//b`, `a/./b` and `a/b/` are one path
in three spellings, and `./a` is not `a`. Parts also give paths their order, the first ones first.
This is not the order of their spellings: a name is over before anything goes on below it.
-/

namespace Conformance

/-- A name in a directory. -/
abbrev FileName := List UInt8

/-- A path as it was spelled. -/
structure Path where
  octets : List UInt8
  deriving DecidableEq, Repr, Inhabited

namespace Path

/-- The octet between names. -/
def slash : UInt8 := 0x2f

def dot : UInt8 := 0x2e

/-- The path that is spelled as a text. -/
def ofText (text : String) : Path := ⟨Text.Utf8.octets text⟩

/-- The path as it is printed. -/
def text (p : Path) : String := Text.Utf8.lossyText p.octets

/-- A part of a path. -/
inductive Part where
  | root
  | here
  | up
  | name (name : FileName)
  deriving DecidableEq, Repr

/-- What stands between slashes, also where nothing does. -/
def segments (p : Path) : List (List UInt8) := p.octets.splitOn slash

/-- The part that a segment stands for, wherever it stands. -/
def Part.ofSegment (segment : List UInt8) : Option Part :=
  if segment = [] ∨ segment = [dot] then none
  else if segment = [dot, dot] then some .up
  else some (.name segment)

/-- The part that a path has from the way it starts. -/
def lead (p : Path) : List Part :=
  if p.octets.head? = some slash then [.root]
  else if p.segments.head? = some [dot] then [.here]
  else []

/-- The parts of a path. -/
def parts (p : Path) : List Part := p.lead ++ p.segments.filterMap Part.ofSegment

/-- The path starts at the root of the file system. -/
def isAbsolute (p : Path) : Bool := p.parts.head? == some .root

/-- Two spellings of one path. -/
def Same (p q : Path) : Prop := p.parts = q.parts

instance (p q : Path) : Decidable (p.Same q) := inferInstanceAs (Decidable (p.parts = q.parts))

namespace Part

/-- The kinds of parts in order. -/
def rank : Part → Nat
  | .root => 0
  | .here => 1
  | .up => 2
  | .name _ => 3

/-- By kind, and names by their octets. -/
def Before : Part → Part → Prop
  | .name a, .name b => a < b
  | a, b => a.rank < b.rank

instance : DecidableRel Before
  | .name a, .name b => inferInstanceAs (Decidable (a < b))
  | .name _, .root | .name _, .here | .name _, .up => inferInstanceAs (Decidable (_ < _))
  | .root, b | .here, b | .up, b => inferInstanceAs (Decidable (_ < b.rank))

end Part

/-- By parts, the first ones first. -/
def Before (p q : Path) : Prop := List.Lex Part.Before p.parts q.parts

instance : DecidableRel Before := fun p q =>
  inferInstanceAs (Decidable (List.Lex Part.Before p.parts q.parts))

/-- The name that a path ends in. -/
def fileName? (p : Path) : Option FileName :=
  match p.parts.getLast? with
  | some (.name name) => some name
  | _ => none

/-- A name cut at its last dot, unless it has no dot or only one in front. -/
def cutName (name : FileName) : List UInt8 × Option (List UInt8) :=
  let ending := (name.reverse.takeWhile (· ≠ dot)).reverse
  let front := name.take (name.length - ending.length - 1)
  if front.isEmpty then (name, none) else (front, some ending)

/-- The name that a path ends in, without its extension. -/
def stem? (p : Path) : Option (List UInt8) := p.fileName?.map fun name => (cutName name).1

/-- The extension of the name that a path ends in. -/
def extension? (p : Path) : Option (List UInt8) := p.fileName?.bind fun name => (cutName name).2

/-- The path of a name in the directory `p`. -/
def join (p : Path) (name : FileName) : Path :=
  if p.octets.isEmpty then ⟨name⟩
  else if p.octets.getLast? = some slash then ⟨p.octets ++ name⟩
  else ⟨p.octets ++ slash :: name⟩

/-- The parts of `p` below `root`. -/
def below? (root p : Path) : Option (List Part) :=
  if root.parts.isPrefixOf p.parts then some (p.parts.drop root.parts.length) else none

/-- How a part is spelled. -/
def Part.octets : Part → List UInt8
  | .root => [slash]
  | .here => [dot]
  | .up => [dot, dot]
  | .name octets => octets

/-- The path with these parts, as it is spelled with one slash between any two. -/
def ofParts (parts : List Part) : Path := ⟨[slash].intercalate (parts.map Part.octets)⟩

/-- `p` from `root` on, or all of `p` if it is not below `root`. -/
def relative (root p : Path) : Path := ((root.below? p).map ofParts).getD p

end Path

end Conformance
