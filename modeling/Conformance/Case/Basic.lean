import Conformance.Case.Header
import Conformance.FileTree

/-!
# Cases

A case is a source with the metadata of its header. A file that does not make a case is malformed:
it is known by the stem of its name, and counted under a section key of its own.
-/

namespace Conformance

/-- A case that can be run. -/
structure Case where
  path : Path
  /-- The whole text, header included, which is also what an engine gets. -/
  source : String
  metadata : Metadata
  deriving DecidableEq, Repr

namespace Case

/-- Why a file does not make a case. -/
inductive LoadError where
  | unreadable (error : FileError)
  | notText
  | badHeader (error : HeaderError)
  deriving DecidableEq, Repr

/-- The wording of a load error. -/
def LoadError.message : LoadError → String
  | .unreadable error => "failed to read file: " ++ error.message
  | .notText => "file is not valid UTF-8"
  | .badHeader error => error.message

/-- The case of a source at a path. -/
def ofSource (path : Path) (source : String) : Except HeaderError Case := do
  return { path, source, metadata := ← Header.parse source.toList path }

/-- The case of a file's octets. -/
def ofOctets (path : Path) (octets : List UInt8) : Except LoadError Case :=
  match Text.Utf8.text? octets with
  | none => .error .notText
  | some source => (ofSource path source).mapError .badHeader

/-- The case of what reading a file gave. -/
def ofContent (path : Path) (content : Except FileError (List UInt8)) : Except LoadError Case :=
  match content with
  | .error error => .error (.unreadable error)
  | .ok octets => ofOctets path octets

/-- The case in the file at a path. -/
def load (files : FileTree) (path : Path) : Except LoadError Case :=
  ofContent path (files.read path)

def id (c : Case) : String := c.metadata.name

def sectionKey (c : Case) : String := SectionKey.ofReference c.metadata.reference?

/-- The case runs as strict code only. -/
def strict (c : Case) : Bool := c.metadata.flags.contains strictFlag

def negative (c : Case) : Bool := c.metadata.expectation?.isSome

end Case

/-- A file that does not make a case. -/
structure MalformedCase where
  path : Path
  id : String
  /-- What is wrong with it. -/
  detail : String
  deriving DecidableEq, Repr

namespace MalformedCase

/-- The malformed case of a file that failed to load. -/
def ofError (path : Path) (error : Case.LoadError) : MalformedCase :=
  { path, id := (path.stem?.map Text.Utf8.lossyText).getD path.text, detail := error.message }

/-- The key that malformed cases are counted under. -/
def sectionKey (_ : MalformedCase) : String := SectionKey.malformed

end MalformedCase

/-- What is found in a file of a case directory. -/
inductive Discovered where
  | case (c : Case)
  | malformed (m : MalformedCase)
  deriving DecidableEq, Repr

namespace Discovered

/-- What the file at a path amounts to when loading it gave `result`. -/
def ofResult (path : Path) (result : Except Case.LoadError Case) : Discovered :=
  match result with
  | .ok c => .case c
  | .error e => .malformed (.ofError path e)

/-- What the item is known by. -/
def id : Discovered → String
  | .case c => c.id
  | .malformed m => m.id

/-- Where the item was found. -/
def path : Discovered → Path
  | .case c => c.path
  | .malformed m => m.path

/-- The key that the item is counted under. -/
def sectionKey : Discovered → String
  | .case c => c.sectionKey
  | .malformed m => m.sectionKey

end Discovered

end Conformance
