/-!
# Streams

What a command reads or writes is a list of octets, after which it either ends or goes on with the
same octets over and over again.
-/

namespace Conformance.Shell

/-- Some octets, and then others without end if there are any. -/
structure Stream where
  octets : List UInt8
  forever : List UInt8
  deriving DecidableEq, Repr, Inhabited

namespace Stream

def ofOctets (octets : List UInt8) : Stream := ⟨octets, []⟩

def empty : Stream := ofOctets []

def all? (s : Stream) : Option (List UInt8) := if s.forever.isEmpty then some s.octets else none

/-- The first `n` octets of a unit written over and over again. -/
def cycle (unit : List UInt8) (n : Nat) : List UInt8 :=
  if unit.isEmpty then [] else ((List.replicate (n / unit.length + 1) unit).flatten).take n

/-- The first `n` octets. -/
def take (s : Stream) (n : Nat) : List UInt8 :=
  s.octets.take n ++ cycle s.forever (n - s.octets.length)

/-- Every octet replaced, or left out. -/
def filterMap (f : UInt8 → Option UInt8) (s : Stream) : Stream :=
  ⟨s.octets.filterMap f, s.forever.filterMap f⟩

/-- A stream after another one, which hides it if it does not end. -/
def append (s t : Stream) : Stream :=
  if s.forever.isEmpty then ⟨s.octets ++ t.octets, t.forever⟩ else s

/-- `lines` when `held`, reversed, is the part of the first line already read. -/
def linesFrom (held : List UInt8) : List UInt8 → List (List UInt8)
  | [] => if held.isEmpty then [] else [held.reverse]
  | b :: rest =>
    if b = 10 then (b :: held).reverse :: linesFrom [] rest else linesFrom (b :: held) rest

/-- The lines of a list of octets, with their ends. -/
def lines (octets : List UInt8) : List (List UInt8) := linesFrom [] octets

end Stream

end Conformance.Shell
