import Conformance.Yaml.Token

/-!
# YAML nodes

The tree that the tokens of a stream with one document stand for. Whether a scalar is plain is
kept, since only a plain one can mean "no value"; its spelling is its value, whatever its tag.

An alias refers to a number and not to a node. An anchor gets the count of different anchor names
before it as its number, also when its name is known already, so two anchors may share a number;
the one that starts later is meant then.
-/

namespace Conformance.Yaml

/-- A node of a document. -/
inductive Node where
  | scalar (plain : Bool) (tag : Option String) (text : String)
  | sequence (items : List Node)
  | mapping (pairs : List (Node × Node))
  | alias (number : Nat)
  deriving Repr, Inhabited

/-- A node with an anchor. -/
structure Anchored where
  number : Nat
  /-- How many anchored nodes start before it. -/
  rank : Nat
  node : Node
  deriving Repr

/-- A document: its root, and the nodes that aliases refer to. -/
structure Document where
  root : Node
  anchored : List Anchored
  deriving Repr

/-- The node that a number refers to. -/
def Document.find? (d : Document) (number : Nat) : Option Node :=
  (d.anchored.filter (·.number == number)).foldl
    (fun (best : Option Anchored) a => match best with
      | some b => if b.rank < a.rank then some a else some b
      | none => some a) none |>.map (·.node)

/-- The node itself, or the one that an alias refers to. -/
def Document.follow (d : Document) : Node → Option Node
  | .alias number => d.find? number
  | node => some node

namespace Node

/-- A scalar without a text, which stands where a node is left out. -/
def empty : Node := .scalar true none ""

/-- The tokens that are left, and what the ones before them defined. -/
structure Builder where
  tokens : List Token
  /-- The targets of tag handles. -/
  handles : List (String × String)
  /-- The numbers of anchor names, latest first. -/
  numbers : List (String × Nat)
  /-- How many anchored nodes have started. -/
  started : Nat
  anchored : List Anchored

/-- Reading nodes from tokens, which may fail. -/
abbrev Build := StateT Builder Option

def peek : Build (Option Token) := return (← get).tokens.head?

def drop : Build Unit := modify fun b => { b with tokens := b.tokens.tail }

def peekIn (ts : List Token) : Build Bool := return (← peek).any ts.contains

/-- Past the next token, which has to be `t`. -/
def expect (t : Token) : Build Unit := do
  if (← peek) == some t then drop else failure

/-- The full tag of a handle and suffix. -/
def resolve (handle suffix : String) : Build String := do
  if handle == "" then return suffix
  match (← get).handles.lookup handle with
  | some target => return target ++ suffix
  | none => failure

/-- The anchor name and tag in front of a node, in either order. -/
def properties : Build (Option String × Option String) := do
  match ← peek with
  | some (.anchor name) =>
    drop
    match ← peek with
    | some (.tag handle suffix) => drop; return (some name, some (← resolve handle suffix))
    | _ => return (some name, none)
  | some (.tag handle suffix) =>
    drop
    let name ← match ← peek with
      | some (.anchor name) => do drop; pure (some name)
      | _ => pure none
    return (name, some (← resolve handle suffix))
  | _ => return (none, none)

/-- Numbers an anchor name; the number and rank of the node that starts here. -/
def enter (name : String) : Build (Nat × Nat) := do
  let b ← get
  let number := b.numbers.length
  let numbers := (name, number) :: b.numbers.filter (·.1 != name)
  set { b with numbers, started := b.started + 1 }
  return (number, b.started)

/-- Keeps an anchored node. -/
def keep (place : Option (Nat × Nat)) (node : Node) : Build Node := do
  if let some (number, rank) := place then
    modify fun b => { b with anchored := ⟨number, rank, node⟩ :: b.anchored }
  return node

mutual

/-- A node. Block collections are allowed if `block`, and a sequence at the column of the mapping
around it if `indentless`. -/
def build (block indentless : Bool) : Nat → Build Node
  | 0 => failure
  | fuel + 1 => do
    match ← peek with
    | some (.alias name) =>
      drop
      match (← get).numbers.lookup name with
      | some number => return .alias number
      | none => failure
    | _ =>
      let (anchor, tag) ← properties
      let place ← match anchor with
        | some name => do pure (some (← enter name))
        | none => pure none
      match ← peek with
      | some (.scalar plain text) =>
        drop
        keep place (.scalar plain (if tag == some "!" then none else tag) text)
      | some .flowSequenceStart =>
        drop
        keep place (.sequence (← flowItems true fuel))
      | some .flowMappingStart =>
        drop
        keep place (.mapping (← flowPairs true fuel))
      | some .blockEntry =>
        if indentless then keep place (.sequence (← indentlessItems fuel))
        else if anchor.isSome || tag.isSome then keep place (.scalar true tag "")
        else failure
      | some .blockSequenceStart =>
        if block then do
          drop
          keep place (.sequence (← blockItems fuel))
        else if anchor.isSome || tag.isSome then keep place (.scalar true tag "")
        else failure
      | some .blockMappingStart =>
        if block then do
          drop
          keep place (.mapping (← blockPairs fuel))
        else if anchor.isSome || tag.isSome then keep place (.scalar true tag "")
        else failure
      | _ => if anchor.isSome || tag.isSome then keep place (.scalar true tag "") else failure

/-- A node, or an empty one if the next token is one of `ends`. -/
def buildUnless (ends : List Token) (block indentless : Bool) : Nat → Build Node
  | 0 => failure
  | fuel + 1 => do if ← peekIn ends then return empty else build block indentless fuel

/-- The items of a block sequence, with its end. -/
def blockItems : Nat → Build (List Node)
  | 0 => failure
  | fuel + 1 => do
    match ← peek with
    | some .blockEntry =>
      drop
      let item ← buildUnless [.blockEntry, .blockEnd] true false fuel
      return item :: (← blockItems fuel)
    | some .blockEnd => drop; return []
    | _ => failure

/-- The items of a sequence at the column of the mapping around it. -/
def indentlessItems : Nat → Build (List Node)
  | 0 => failure
  | fuel + 1 => do
    match ← peek with
    | some .blockEntry =>
      drop
      let item ← buildUnless [.blockEntry, .key, .value, .blockEnd] true false fuel
      return item :: (← indentlessItems fuel)
    | _ => return []

/-- The pairs of a block mapping, with its end. -/
def blockPairs : Nat → Build (List (Node × Node))
  | 0 => failure
  | fuel + 1 => do
    match ← peek with
    | some .key =>
      drop
      let ends := [Token.key, .value, .blockEnd]
      let key ← buildUnless ends true true fuel
      let value ← match ← peek with
        | some .value => do drop; buildUnless ends true true fuel
        | _ => pure empty
      return (key, value) :: (← blockPairs fuel)
    | some .blockEnd => drop; return []
    | _ => failure

/-- The items of a flow sequence, with its end; a lone pair is a mapping. -/
def flowItems (first : Bool) : Nat → Build (List Node)
  | 0 => failure
  | fuel + 1 => do
    if (← peek) == some .flowSequenceEnd then drop; return []
    else
      if !first then expect .flowEntry
      match ← peek with
      | some .key =>
        drop
        let ends := [Token.value, .flowEntry, .flowSequenceEnd]
        let key ← if ← peekIn ends then do drop; pure empty else build false false fuel
        let value ← match ← peek with
          | some .value => do
            drop
            buildUnless [.flowEntry, .flowSequenceEnd] false false fuel
          | _ => pure empty
        return .mapping [(key, value)] :: (← flowItems false fuel)
      | some .flowSequenceEnd => drop; return []
      | _ =>
        let item ← build false false fuel
        return item :: (← flowItems false fuel)

/-- The pairs of a flow mapping, with its end; a lone node is a key. -/
def flowPairs (first : Bool) : Nat → Build (List (Node × Node))
  | 0 => failure
  | fuel + 1 => do
    if (← peek) == some .flowMappingEnd then drop; return []
    else
      if !first then expect .flowEntry
      match ← peek with
      | some .key =>
        drop
        let key ← buildUnless [.value, .flowEntry, .flowMappingEnd] false false fuel
        let value ← match ← peek with
          | some .value => do
            drop
            buildUnless [.flowEntry, .flowMappingEnd] false false fuel
          | _ => pure empty
        return (key, value) :: (← flowPairs false fuel)
      | some .flowMappingEnd => drop; return []
      | _ =>
        let key ← build false false fuel
        return (key, empty) :: (← flowPairs false fuel)

end

/-- The directives in front of a document: at most one version, 1.1 or 1.2, and each handle once. -/
def directives (version : Bool) (handles : List (String × String)) :
    Nat → Build (List (String × String))
  | 0 => failure
  | fuel + 1 => do
    match ← peek with
    | some (.versionDirective major minor) =>
      if version || major != 1 || (minor != 1 && minor != 2) then failure
      drop
      directives true handles fuel
    | some (.tagDirective handle target) =>
      if (handles.lookup handle).isSome then failure
      drop
      directives version ((handle, target) :: handles) fuel
    | _ => return handles

/-- The handles that need no directive, behind the given ones. -/
def withDefaults (handles : List (String × String)) : List (String × String) :=
  handles ++ [("!", "!"), ("!!", "tag:yaml.org,2002:")]

/-- The root of the only document, unless there is none. -/
def root (fuel : Nat) : Build (Option Node) := do
  match ← peek with
  | some .streamEnd => return none
  | some (.versionDirective ..) | some (.tagDirective ..) | some .documentStart =>
    let handles ← directives false [] fuel
    modify fun b => { b with handles := withDefaults handles }
    expect .documentStart
    match ← peek with
    | some (.versionDirective ..) | some (.tagDirective ..) => return some empty
    | _ => return some (← buildUnless [.documentStart, .documentEnd, .streamEnd] true false fuel)
  | _ => return some (← build true false fuel)

/-- Past the ends of a document, up to the end of the stream. -/
def finish : List Token → Bool
  | .documentEnd :: rest => finish rest
  | [.streamEnd] => true
  | _ => false

end Node

/-- The document of a text: `none` if the text is no YAML or has a second document, and
`some none` if it has no document at all. -/
def Document.ofText? (text : List Char) : Option (Option Document) := do
  let tokens ← Token.ofText? text
  let start : Node.Builder :=
    { tokens, handles := Node.withDefaults [], numbers := [], started := 0, anchored := [] }
  let (root, b) ← (Node.root (2 * tokens.length + 2)).run start
  if !Node.finish b.tokens then none
  return root.map fun root => ⟨root, b.anchored⟩

end Conformance.Yaml
