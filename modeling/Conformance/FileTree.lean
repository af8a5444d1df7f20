import Conformance.Path

/-!
# File trees

The files of a working directory as a value: a file with its octets, or a directory with its
entries, whose names are octets as well. Either may be sealed, so that it is seen where it is but
cannot be opened, and there may be something that is neither, such as a socket. A path is resolved
segment by segment from the working directory. Each step has to find an open directory to step from,
also a step that stays or goes up, and what lies outside the working directory is not there.

The errors are those that a Linux system gives, with its numbers and wording.
-/

namespace Conformance

/-- A file, a directory, or something else. -/
inductive FileTree where
  | file (octets : List UInt8)
  | directory (entries : List (FileName × FileTree))
  /-- A file that may be neither read nor written. -/
  | sealedFile
  /-- A directory that may be neither listed nor entered. -/
  | sealedDirectory
  /-- Neither a file nor a directory, and nothing that can be opened. -/
  | special
  deriving Repr, Inhabited

/-- Why a file could not be used. -/
inductive FileError where
  | notFound
  | permissionDenied
  | notDirectory
  | isDirectory
  | noDevice
  /-- The octets of a text file are not UTF-8. -/
  | notText
  /-- A path with a NUL in it names no file. -/
  | nulInPath
  deriving DecidableEq, Repr

/-- What the system calls a file error. -/
def FileError.cause : FileError → String
  | .notFound => "No such file or directory"
  | .permissionDenied => "Permission denied"
  | .notDirectory => "Not a directory"
  | .isDirectory => "Is a directory"
  | .noDevice => "No such device or address"
  | .notText => "stream did not contain valid UTF-8"
  | .nulInPath => "file name contained an unexpected NUL byte"

/-- The wording of a file error, with the system's number if it has one. -/
def FileError.message (e : FileError) : String :=
  e.cause ++ match e with
    | .notFound => " (os error 2)"
    | .noDevice => " (os error 6)"
    | .permissionDenied => " (os error 13)"
    | .notDirectory => " (os error 20)"
    | .isDirectory => " (os error 21)"
    | .notText | .nulInPath => ""

namespace FileTree

def empty : FileTree := .directory []

/-- The entries of a directory. -/
def entries : FileTree → List (FileName × FileTree)
  | .directory entries => entries
  | .file _ | .sealedFile | .sealedDirectory | .special => []

/-- Whether it is a directory. -/
def isDirectory : FileTree → Bool
  | .directory _ | .sealedDirectory => true
  | .file _ | .sealedFile | .special => false

/-- Whether it may not be opened. -/
def isSealed : FileTree → Bool
  | .sealedFile | .sealedDirectory => true
  | .file _ | .directory _ | .special => false

/-- What reading a file gives, if it is one. -/
def content? : FileTree → Option (Except FileError (List UInt8))
  | .file octets => some (.ok octets)
  | .sealedFile => some (.error .permissionDenied)
  | .directory _ | .sealedDirectory | .special => none

def entry? (t : FileTree) (name : FileName) : Option FileTree := t.entries.lookup name

/-- The node at the end of a chain of names. -/
def at? (t : FileTree) : List FileName → Option FileTree
  | [] => some t
  | name :: names => (t.entry? name).bind (·.at? names)

/-- One step along a path: `above` are the names walked so far, innermost first. -/
def step (t : FileTree) (above : List FileName) (segment : List UInt8) :
    Except FileError (List FileName) :=
  match t.at? above.reverse with
  | some (.directory entries) =>
    if segment = [] ∨ segment = [Path.dot] then .ok above
    else if segment = [Path.dot, Path.dot] then
      match above with
      | _ :: above => .ok above
      | [] => .error .notFound
    else if (entries.lookup segment).isSome then .ok (segment :: above)
    else .error .notFound
  | some .sealedDirectory => .error .permissionDenied
  | some (.file _) | some .sealedFile | some .special => .error .notDirectory
  | none => .error .notFound

/-- The names that lead to what a path means. -/
def resolve (t : FileTree) (p : Path) : Except FileError (List FileName) :=
  if p.octets.contains 0 then .error .nulInPath
  else if p.octets.isEmpty || p.isAbsolute then .error .notFound
  else (p.segments.foldlM t.step []).map List.reverse

/-- What a path means. -/
def find (t : FileTree) (p : Path) : Except FileError FileTree := do
  match t.at? (← t.resolve p) with
  | some node => .ok node
  | none => .error .notFound

/-- The octets of a file. -/
def read (t : FileTree) (p : Path) : Except FileError (List UInt8) := do
  match ← t.find p with
  | .file octets => .ok octets
  | .directory _ => .error .isDirectory
  | .sealedFile | .sealedDirectory => .error .permissionDenied
  | .special => .error .noDevice

/-- The text of a file. -/
def readText (t : FileTree) (p : Path) : Except FileError String := do
  match Text.Utf8.text? (← t.read p) with
  | some text => .ok text
  | none => .error .notText

/-- The path means something. -/
def has (t : FileTree) (p : Path) : Bool :=
  match t.find p with
  | .ok _ => true
  | .error _ => false

/-- The path means a directory. -/
def hasDirectory (t : FileTree) (p : Path) : Bool :=
  match t.find p with
  | .ok node => node.isDirectory
  | .error _ => false

/-- The path means a file. -/
def hasFile (t : FileTree) (p : Path) : Bool :=
  match t.find p with
  | .ok node => node.content?.isSome
  | .error _ => false

/-- The entries with the one of `name` set to `node`, or without it. -/
def setEntry (name : FileName) (node : Option FileTree) :
    List (FileName × FileTree) → List (FileName × FileTree)
  | [] => node.toList.map (name, ·)
  | (n, t) :: rest =>
    if n = name then node.toList.map (name, ·) ++ rest else (n, t) :: setEntry name node rest

/-- The tree with `node` at the end of a chain of names, or with nothing there. Directories on the
way are made as needed. -/
def set (node : Option FileTree) : List FileName → FileTree → FileTree
  | [], t => node.getD t
  | [name], t => .directory (setEntry name node t.entries)
  | name :: names, t =>
    .directory (setEntry name (some (set node names ((t.entry? name).getD empty))) t.entries)

/-- The directory in which a path would make a new file, and the name it would have. A path that
ends in a slash or goes up at its end makes none. -/
def newFile (t : FileTree) (p : Path) : Except FileError (List FileName × FileName) := do
  if p.octets.isEmpty || p.isAbsolute then throw .notFound
  let reversed := p.segments.reverse
  let above ← (reversed.dropWhile (·.isEmpty)).tail.reverse.foldlM t.step []
  match t.at? above.reverse, reversed with
  | some (.directory _), name :: _ =>
    if name = [] ∨ name = [Path.dot, Path.dot] then throw .isDirectory
    else return (above.reverse, name)
  | some .sealedDirectory, _ => throw .permissionDenied
  | some (.file _), _ | some .sealedFile, _ | some .special, _ => throw .notDirectory
  | _, _ => throw .notFound

/-- The tree after a file was written: over an existing file, or new in an existing directory. -/
def write (t : FileTree) (p : Path) (octets : List UInt8) : Except FileError FileTree :=
  match t.find p with
  | .ok (.directory _) | .ok .sealedDirectory => .error .isDirectory
  | .ok .sealedFile => .error .permissionDenied
  | .ok .special => .error .noDevice
  | .ok (.file _) => do return set (some (.file octets)) (← t.resolve p) t
  | .error .notFound => do
    let (above, name) ← t.newFile p
    return set (some (.file octets)) (above ++ [name]) t
  | .error e => .error e

/-- The names of a relative path, taken literally. -/
def names (p : Path) : List FileName :=
  p.parts.filterMap fun part => match part with
    | .name name => some name
    | _ => none

/-- The tree with `node` at a path, and with the directories that lead there. -/
def put (t : FileTree) (p : Path) (node : FileTree) : FileTree := set (some node) (names p) t

/-- The tree with a directory at a path, which keeps what is in it. -/
def putDirectory (t : FileTree) (p : Path) : FileTree :=
  match t.at? (names p) with
  | some (.directory _) => t
  | _ => t.put p empty

def remove (t : FileTree) (p : Path) : FileTree := set none (names p) t

end FileTree

end Conformance
