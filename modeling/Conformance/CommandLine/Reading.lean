import Conformance.CommandLine.Key

/-!
# Reading words

The words of a command are octets, and are read one by one. An option's value, and likewise a
positional word, is settled only when the next option or positional word comes, or at the end: only
then it is checked and found to be missing or repeated. So an option that is not known is reported
before a bad value in front of it, and a switch in front of it is not.

After `--` every word is positional. An option whose values may look like options takes any word,
also that one.
-/

namespace Conformance.CommandLine

/-- The options and positional words that a command takes. -/
structure Grammar where
  keys : List Key
  /-- How many positional words there are, each of them a path. -/
  positionals : Nat

def hyphen : UInt8 := 0x2d

def equalsSign : UInt8 := 0x3d

/-- How a word looks. -/
inductive Word where
  | escape
  | long (name : List UInt8) (value? : Option (List UInt8))
  | cluster (letters : List UInt8)
  | plain
  deriving DecidableEq, Repr

/-- How a word looks that starts with two hyphens, from what follows them. -/
def Word.ofLong (rest : List UInt8) : Word :=
  let name := rest.takeWhile (· != equalsSign)
  if rest.isEmpty then .escape
  else .long name (if name.length < rest.length then some (rest.drop (name.length + 1)) else none)

/-- How a word looks. -/
def Word.ofOctets : List UInt8 → Word
  | [] => .plain
  | first :: letters =>
    if first = hyphen then
      match letters with
      | [] => .plain
      | second :: rest => if second = hyphen then ofLong rest else .cluster letters
    else .plain

/-- What was read last and is not settled. -/
inductive Pending where
  | nothing
  /-- An option whose value has to follow. -/
  | awaiting (k : Key)
  | value (k : Key) (octets : List UInt8)
  | positional (octets : List UInt8)
  deriving DecidableEq, Repr

/-- What was read of the words of a command. -/
structure Reading where
  /-- The settled options with their values, in order; a switch has an empty one. -/
  values : List (Key × List UInt8)
  /-- The settled positional words, in order. -/
  positionals : List (List UInt8)
  /-- How often the counted option was given. -/
  count : Nat
  pending : Pending
  /-- Only positional words follow. -/
  trailing : Bool
  deriving DecidableEq, Repr

namespace Reading

/-- Before the first word. -/
def start : Reading :=
  { values := [], positionals := [], count := 0, pending := .nothing, trailing := false }

/-- Counts stop here. -/
def countLimit : Nat := 255

def has (r : Reading) (k : Key) : Bool := r.values.any (·.1 == k)

/-- Takes up an option with its value. -/
def take (r : Reading) (k : Key) (value : List UInt8) : Except UsageError Reading := do
  if k.kind != .texts && r.has k then throw .argumentConflict
  k.kind.check value
  return { r with values := r.values ++ [(k, value)] }

/-- Settles what is pending. -/
def settle (r : Reading) : Except UsageError Reading :=
  match r.pending with
  | .nothing => .ok r
  | .awaiting _ => .error .invalidValue
  | .value k octets => ({ r with pending := .nothing }).take k octets
  | .positional octets => do
    Kind.path.check octets
    return { r with pending := .nothing, positionals := r.positionals ++ [octets] }

/-- How many positional words were read. -/
def positionalCount (r : Reading) : Nat :=
  match r.pending with
  | .positional _ => r.positionals.length + 1
  | _ => r.positionals.length

/-- A positional word. -/
def positional (g : Grammar) (r : Reading) (word : List UInt8) : Except UsageError Reading := do
  if g.positionals ≤ r.positionalCount then throw .unknownArgument
  return { ← r.settle with pending := .positional word }

/-- An option without a value. -/
def switch (r : Reading) (k : Key) : Except UsageError Reading := do
  let r ← r.settle
  match k.kind with
  | .request answer => throw answer
  | .count => return { r with count := min (r.count + 1) countLimit }
  | _ => r.take k []

/-- An option with the value given in the same word, if any. -/
def option (r : Reading) (k : Key) (value? : Option (List UInt8)) :
    Except UsageError Reading := do
  let r ← r.settle
  match value? with
  | some value => r.take k value
  | none => return { r with pending := .awaiting k }

/-- The letters of a cluster. An option with a value ends it: what follows is its value. -/
def cluster (g : Grammar) (r : Reading) : List UInt8 → Except UsageError Reading
  | [] => .ok r
  | letter :: rest =>
    match g.keys.find? (·.hasLetter letter) with
    | none => .error .unknownArgument
    | some k =>
      if k.takesValue then
        r.option k (match rest with
          | [] => none
          | first :: value => some (if first = equalsSign then value else rest))
      else do cluster g (← r.switch k) rest

/-- One word more. -/
def step (g : Grammar) (r : Reading) (word : List UInt8) : Except UsageError Reading :=
  if r.trailing then r.positional g word
  else
    match r.pending, Word.ofOctets word with
    | .awaiting .engineArg, _ => .ok { r with pending := .value .engineArg word }
    | _, .escape => .ok { r with trailing := true }
    | _, .long name value? =>
      match g.keys.find? (·.hasName name) with
      | none => .error .unknownArgument
      | some k =>
        if k.takesValue then r.option k value?
        else if value?.isSome then .error .tooManyValues
        else r.switch k
    | _, .cluster letters => r.cluster g letters
    | .awaiting k, .plain => .ok { r with pending := .value k word }
    | _, .plain => r.positional g word

/-- The reading of all words of a command, if none of its positional words is missing. -/
def ofWords (g : Grammar) (words : List (List UInt8)) : Except UsageError Reading := do
  let r ← (← words.foldlM (step g) start).settle
  if r.positionals.length < g.positionals then throw .missingRequiredArgument
  return r

def value? (r : Reading) (k : Key) : Option (List UInt8) := r.values.lookup k

/-- All values of an option, in order. -/
def valuesOf (r : Reading) (k : Key) : List (List UInt8) :=
  (r.values.filter (·.1 == k)).map (·.2)

end Reading

end Conformance.CommandLine
