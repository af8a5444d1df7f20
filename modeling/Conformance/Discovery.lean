import Conformance.Abort
import Conformance.Case.Basic
import Conformance.Pattern.Reader
import Conformance.Text.Order

/-!
# Finding cases

A scan starts at a root and goes through directories in the order of names, each directory's
contents right after its own place. Every file with the extension `js` is a case or a malformed
case, except fixtures, which are helpers of other cases, and files that an exclusion pattern
matches. Patterns see a file's path from the root on as it is printed, with slashes between its
names. The name of a fixture is a text.

A directory that cannot be listed is a fault in the place of its contents. Whoever goes through what
a scan yields has to stop at the first one.
-/

namespace Conformance

/-- Where cases are looked for, and which files are left out. -/
structure CaseRoot where
  path : Path
  excludes : List Pattern

namespace CaseRoot

def fixtureEnding : String := "_FIXTURE.js"

def caseExtension : List UInt8 := Text.Utf8.octets "js"

/-- A directory as the root of cases, with nothing left out. -/
def ofPath (files : FileTree) (path : Path) : Except Abort CaseRoot :=
  if files.hasDirectory path then .ok ⟨path, []⟩ else .error (.rootNotFound path)

/-- The pattern of a text. -/
def pattern (text : String) : Except Abort Pattern :=
  match Pattern.ofText? text with
  | some p => .ok p
  | none => .error (.badPattern text)

/-- The root with more patterns, all of which have to be valid. -/
def exclude (r : CaseRoot) (patterns : List String) : Except Abort CaseRoot := do
  return { r with excludes := r.excludes ++ (← patterns.mapM pattern) }

/-- The text that patterns see of a path. -/
def excludedText (r : CaseRoot) (path : Path) : List Char :=
  (r.path.relative path).text.toList.map fun c => if c = '\\' then '/' else c

/-- Some pattern matches the path. -/
def excluded (r : CaseRoot) (path : Path) : Bool :=
  r.excludes.any (·.occursIn (r.excludedText path))

/-- The name is that of a case and not of a fixture. -/
def isCaseName (path : Path) : Bool :=
  path.extension? == some caseExtension &&
    !((path.fileName?.bind Text.Utf8.text?).any fun name =>
      fixtureEnding.toList.isSuffixOf name.toList)

def isCandidate (r : CaseRoot) (path : Path) : Bool := isCaseName path && !r.excluded path

end CaseRoot

namespace FileTree

/-- What was collected under names, in the order of the names. -/
def inNameOrder {α : Type} (found : List (FileName × List α)) : List α :=
  (found.mergeSort fun a b => decide (a.1 ≤ b.1)).flatMap (·.2)

mutual

/-- Everything in a tree with its path, a directory before what is in it. -/
def walk (path : Path) : FileTree → List (Path × FileTree)
  | .file octets => [(path, .file octets)]
  | .directory entries => (path, .directory entries) :: inNameOrder (walkEntries path entries)
  | .sealedFile => [(path, .sealedFile)]
  | .sealedDirectory => [(path, .sealedDirectory)]
  | .special => [(path, .special)]

/-- The names of entries, and for each of them what is at or below it. -/
def walkEntries (path : Path) :
    List (FileName × FileTree) → List (FileName × List (Path × FileTree))
  | [] => []
  | (name, t) :: rest => (name, walk (path.join name) t) :: walkEntries path rest

end

end FileTree

namespace CaseRoot

/-- What a scan makes of something it comes to: a case file is loaded, and a directory that cannot
be listed is a fault. -/
def visit (r : CaseRoot) (path : Path) (node : FileTree) : Option (Except Abort Discovered) :=
  match node with
  | .sealedDirectory => some (.error (.walk path .permissionDenied))
  | node =>
    if r.isCandidate path then
      node.content?.map fun content => .ok (.ofResult path (Case.ofContent path content))
    else none

/-- What a scan yields in the tree at the root, in order. A fault does not end it. -/
def itemsIn (r : CaseRoot) (t : FileTree) : List (Except Abort Discovered) :=
  (t.walk r.path).filterMap fun (path, node) => r.visit path node

/-- What a scan yields. -/
def items (files : FileTree) (r : CaseRoot) : List (Except Abort Discovered) :=
  match files.find r.path with
  | .error e => [.error (.walk r.path e)]
  | .ok t => r.itemsIn t

/-- What is found before the first fault, and that fault. -/
def beforeFault : List (Except Abort Discovered) → List Discovered × Option Abort
  | [] => ([], none)
  | .error a :: _ => ([], some a)
  | .ok d :: rest =>
    let (found, fault?) := beforeFault rest
    (d :: found, fault?)

/-- All that a scan finds, if nothing keeps it from its end. -/
def scan (files : FileTree) (r : CaseRoot) : Except Abort (List Discovered) :=
  match beforeFault (r.items files) with
  | (found, none) => .ok found
  | (_, some a) => .error a

end CaseRoot

end Conformance
