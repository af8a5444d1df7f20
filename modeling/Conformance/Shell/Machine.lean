import Conformance.FileTree
import Conformance.Shell.Stream

/-!
# Machines

What a process finds around it: the files of its working directory, the script it was started on,
two devices, and the directories that every system has. A process spells paths as texts. A path from
the root that leads into the working directory means the same as its rest.
-/

namespace Conformance.Shell

/-- What a process finds around it. -/
structure Machine where
  tree : FileTree
  /-- The directory that relative paths start from. -/
  directory : String
  /-- Where the script was staged. -/
  scriptPath : String
  /-- The script, unless it was removed. -/
  script? : Option (List UInt8)
  deriving Repr

namespace Machine

/-- The path of the directory that the tree is. -/
def workingDirectory : String := "/work"

/-- The directories outside the working directory. -/
def systemDirectories : List String :=
  ["/", "/bin", "/dev", "/etc", "/home", "/lib", "/proc", "/root", "/sbin", "/sys", "/tmp", "/usr",
    "/usr/bin", "/usr/local/bin", "/var"]

/-- The path that gives no octets. -/
def nullDevice : String := "/dev/null"

/-- The path that gives zeros without end. -/
def zeroDevice : String := "/dev/zero"

/-- A path as one in the tree, if it leads there. -/
def local? (m : Machine) (path : String) : Option Path :=
  let path := Path.ofText path
  if !path.isAbsolute ∧ m.directory = workingDirectory then some path
  else
    let path := if path.isAbsolute then path else (Path.ofText m.directory).join path.octets
    match (Path.ofText workingDirectory).below? path with
    | some [] => some (.ofText ".")
    | some parts => some (.ofParts parts)
    | none => none

/-- A path from the root. -/
def absolute (m : Machine) (path : String) : String :=
  if (Path.ofText path).isAbsolute then path
  else if path = "." then m.directory
  else ((Path.ofText m.directory).join (Text.Utf8.octets path)).text

/-- What is read from a path. -/
def read (m : Machine) (path : String) : Except FileError Stream :=
  if path = m.scriptPath then (m.script?.map .ofOctets).elim (.error .notFound) .ok
  else if path = nullDevice then .ok .empty
  else if path = zeroDevice then .ok ⟨[], [0]⟩
  else
    match m.local? path with
    | some p => (m.tree.read p).map .ofOctets
    | none =>
      .error (if systemDirectories.contains (m.absolute path) then .isDirectory else .notFound)

/-- The path means a directory. -/
def hasDirectory (m : Machine) (path : String) : Bool :=
  match m.local? path with
  | some p => m.tree.hasDirectory p
  | none => systemDirectories.contains (m.absolute path)

/-- The path means a file that is no device. -/
def hasFile (m : Machine) (path : String) : Bool :=
  if path = m.scriptPath then m.script?.isSome
  else
    match m.local? path with
    | some p => m.tree.hasFile p
    | none => false

/-- The path means something. -/
def has (m : Machine) (path : String) : Bool :=
  m.hasFile path || m.hasDirectory path || path = nullDevice || path = zeroDevice ||
    (m.local? path).any m.tree.has

/-- The path means something that is not sealed. -/
def admits (m : Machine) (path : String) : Bool :=
  match (m.local? path).map m.tree.find with
  | some (.ok node) => !node.isSealed
  | _ => m.has path

/-- The machine after octets were written to a path, behind what is there if `append`. -/
def write (m : Machine) (path : String) (octets : List UInt8) (append : Bool) :
    Except FileError Machine :=
  if path = nullDevice ∨ path = zeroDevice then .ok m
  else if path = m.scriptPath then
    .ok { m with script? := some (if append then m.script?.getD [] ++ octets else octets) }
  else
    match m.local? path with
    | some p => do
      let old := match m.tree.read p with
        | .ok octets => octets
        | .error _ => []
      return { m with tree := ← m.tree.write p (if append then old ++ octets else octets) }
    | none =>
      .error (if systemDirectories.contains (m.absolute path) then .isDirectory else .notFound)

/-- The machine without what a path means, if that can be removed. -/
def remove? (m : Machine) (path : String) : Option Machine :=
  if path = m.scriptPath then m.script?.map fun _ => { m with script? := none }
  else if m.has path then (m.local? path).map fun p => { m with tree := m.tree.remove p }
  else none

end Machine

end Conformance.Shell
