import Conformance.Shell.Condition
import Conformance.Shell.LinePattern
import Conformance.Shell.Replacement

/-!
# Tools

The commands that need no shell. A tool gets its arguments, what it can read and the machine around
it. It gives its outputs, its status and how long it sleeps, and it may change files. A tool that
would never end has no effect.
-/

namespace Conformance.Shell

open Text.Utf8 (octets)

/-- What a tool does. -/
structure Effect where
  output : Stream
  errors : List UInt8
  status : Nat
  /-- How long it sleeps. -/
  pause : Nat
  machine : Machine

/-- A command by what it does with its arguments and its input. -/
abbrev Tool := List String → Stream → Machine → Option Effect

namespace Effect

/-- Something is written. -/
def say (m : Machine) (output : Stream) : Effect := ⟨output, [], 0, 0, m⟩

/-- Nothing but a status. -/
def result (m : Machine) (status : Nat) : Effect := ⟨.empty, [], status, 0, m⟩

/-- A complaint. -/
def complain (m : Machine) (status : Nat) (message : String) : Effect :=
  ⟨.empty, octets (message ++ "\n"), status, 0, m⟩

end Effect

namespace Tool

/-- A file that could not be read, as a tool complains about it. -/
def complaint (tool name : String) (e : FileError) : List UInt8 :=
  octets (tool ++ ": " ++ name ++ ": " ++ e.cause ++ "\n")

/-- What the files of the given names hold, or the input if there are none. -/
def sources (names : List String) (input : Stream) (m : Machine) :
    List (String × Except FileError Stream) :=
  (if names.isEmpty then ["-"] else names).map fun name =>
    (name, if name = "-" ∨ name = "/dev/stdin" then .ok input else m.read name)

/-- The effect of a tool that treats each of its files alike; `none` if one takes it no end. -/
def eachSource (tool : String) (names : List String) (input : Stream) (m : Machine)
    (treat : String → Stream → Option Stream) : Option Effect :=
  (sources names input m).foldlM (fun e (name, source) =>
    match source with
    | .ok s => (treat name s).map fun out => { e with output := e.output.append out }
    | .error error => some { e with errors := e.errors ++ complaint tool name error, status := 1 })
    (Effect.result m 0)

/-- Files one after the other. -/
def cat : Tool := fun arguments input m =>
  eachSource "cat" (arguments.filter (· ≠ "-u")) input m fun _ s => some s

/-- How much `head` and `tail` take. -/
structure Portion where
  octets : Bool
  /-- The sign in front of the number. -/
  sign? : Option Char
  number : Nat
  names : List String

/-- The factor of a unit behind a number. -/
def unit : List Char → Nat
  | ['b'] => 512
  | ['k'] => 1024
  | ['K'] => 1024
  | ['k', 'B'] => 1000
  | ['M'] => 1048576
  | _ => 1

/-- The portion with a number as it is spelled. -/
def Portion.withNumber (p : Portion) (octets : Bool) (text : List Char) : Portion :=
  let (sign?, text) := match text with
    | '-' :: rest => (some '-', rest)
    | '+' :: rest => (some '+', rest)
    | rest => (none, rest)
  let digits := text.takeWhile Char.isDigit
  { p with octets, sign?, number := Text.decimal digits * unit (text.dropWhile Char.isDigit) }

/-- The portion of the arguments. -/
def Portion.ofArguments (p : Portion) : List String → Portion
  | [] => p
  | "-n" :: number :: rest => (p.withNumber false number.toList).ofArguments rest
  | "-c" :: number :: rest => (p.withNumber true number.toList).ofArguments rest
  | argument :: rest =>
    match argument.toList with
    | '-' :: 'n' :: number => (p.withNumber false number).ofArguments rest
    | '-' :: 'c' :: number => (p.withNumber true number).ofArguments rest
    | '-' :: d :: more =>
      if d.isDigit then (p.withNumber false (d :: more)).ofArguments rest
      else p.ofArguments rest
    | _ => { p with names := p.names ++ [argument] }.ofArguments rest

/-- Ten lines. -/
def Portion.usual : Portion := ⟨false, none, 10, []⟩

/-- The start of files. -/
def head : Tool := fun arguments input m =>
  let p := Portion.usual.ofArguments arguments
  eachSource "head" p.names input m fun _ s =>
    match p.octets, p.sign? with
    | true, some '-' => s.all?.map fun l => .ofOctets (l.take (l.length - p.number))
    | true, _ => some (.ofOctets (s.take p.number))
    | false, some '-' =>
      s.all?.map fun l =>
        let lines := Stream.lines l
        .ofOctets (lines.take (lines.length - p.number)).flatten
    | false, _ =>
      if s.forever.isEmpty || s.forever.contains 10 then
        let enough := s.octets.length + p.number * s.forever.length
        some (.ofOctets ((Stream.lines (s.take enough)).take p.number).flatten)
      else none

/-- The end of files. -/
def tail : Tool := fun arguments input m =>
  let p := Portion.usual.ofArguments arguments
  eachSource "tail" p.names input m fun _ s =>
    s.all?.map fun l =>
      let cut {α : Type} (l : List α) : List α :=
        if p.sign? = some '+' then l.drop (p.number - 1) else l.drop (l.length - p.number)
      .ofOctets (if p.octets then cut l else (cut (Stream.lines l)).flatten)

/-- Octets replaced or left out. -/
def replace : Tool := fun arguments input m =>
  let o := Replacement.Options.ofArguments arguments
  match o.refusal? with
  | some reason => some (.complain m 1 ("tr: " ++ reason))
  | none => (Replacement.apply o input).map (.say m)

/-- What `wc` counts. -/
def counts (letters : List Char) (l : List UInt8) : List Nat :=
  let text := Text.Utf8.lossy l
  let blank (c : Char) : Bool := c == ' ' || (0x09 ≤ c.val && c.val ≤ 0x0d)
  let words := (text.splitOnP blank).filter (!·.isEmpty)
  [('l', l.count 10), ('w', words.length), ('m', text.length), ('c', l.length)].filterMap
    fun (letter, n) => if letters.contains letter then some n else none

/-- A number with blanks in front up to a width. -/
def padded (width n : Nat) : String :=
  let digits := toString n
  String.ofList (List.replicate (width - digits.length) ' ') ++ digits

/-- Lines, words, characters and octets counted. -/
def wordCount : Tool := fun arguments input m =>
  let flags := arguments.filter fun a => a.length > 1 && a.toList.head? == some '-'
  let names := arguments.filter fun a => !flags.contains a
  let given := flags.flatMap (·.toList.drop 1)
  let letters := if given.isEmpty then ['l', 'w', 'c'] else given
  eachSource "wc" names input m fun name s =>
    s.all?.map fun l =>
      let numbers := counts letters l
      let width := if numbers.length ≤ 1 then 0 else if names.isEmpty then 7
        else (toString l.length).length
      let line := String.intercalate " " (numbers.map (padded width))
      .ofOctets (octets (line ++ (if names.isEmpty then "" else " " ++ name) ++ "\n"))

/-- What `grep` is asked for. -/
structure Search where
  dialect : LinePattern.Dialect
  letters : List Char
  patterns : List String
  names : List String

/-- The search of the arguments. -/
def Search.ofArguments (s : Search) : List String → Search
  | [] => s
  | "--" :: rest => { s with names := s.names ++ rest }
  | "-e" :: pattern :: rest => { s with patterns := s.patterns ++ [pattern] }.ofArguments rest
  | argument :: rest =>
    match argument.toList with
    | '-' :: c :: more =>
      let letters := c :: more
      { s with
        letters := s.letters ++ letters
        dialect := if letters.contains 'F' then .fixed
          else if letters.contains 'E' || letters.contains 'P' then .extended
          else s.dialect }.ofArguments rest
    | _ => { s with names := s.names ++ [argument] }.ofArguments rest

/-- The search with its patterns apart from the names of files. -/
def Search.settled (s : Search) : Search :=
  match s.patterns, s.names with
  | [], pattern :: names =>
    { s with patterns := (pattern.toList.splitOn '\n').map String.ofList, names }
  | _, _ => s

/-- A line is found. -/
def Search.finds (s : Search) (patterns : List Pattern) (line : List Char) : Bool :=
  patterns.any (·.occursIn line) != s.letters.contains 'v'

/-- The lines of a stream without their ends, as far as it ends. -/
def textLines (s : Stream) : Option (List (List Char)) :=
  s.all?.map fun l => (Stream.lines l).map fun line =>
    Text.Utf8.lossy (if line.getLast? = some 10 then line.dropLast else line)

/-- What is written about the lines found in a source. -/
def Search.report (s : Search) (name : String) (found : List (Nat × List Char)) : String :=
  let front := if s.names.length > 1 && !s.letters.contains 'h' then name ++ ":" else ""
  if s.letters.contains 'q' then ""
  else if s.letters.contains 'c' then front ++ toString found.length ++ "\n"
  else if s.letters.contains 'l' then
    if found.isEmpty then "" else (if name = "-" then "(standard input)" else name) ++ "\n"
  else String.join (found.map fun (number, line) =>
    front ++ (if s.letters.contains 'n' then toString number ++ ":" else "") ++
      String.ofList line ++ "\n")

/-- Lines that match a pattern. -/
def grep : Tool := fun arguments input m => do
  let s := (Search.ofArguments ⟨.basic, [], [], []⟩ arguments).settled
  let some patterns := s.patterns.mapM (LinePattern.ofText? s.dialect (s.letters.contains 'i'))
    | return .complain m 2 "grep: Unmatched [, [^, [:, [., or [="
  if patterns.isEmpty then
    return .complain m 2
      "Usage: grep [OPTION]... PATTERNS [FILE]...\nTry 'grep --help' for more information."
  let patterns := if s.letters.contains 'x' then patterns.map LinePattern.whole else patterns
  let read := sources s.names input m
  let (e, found, failed) ← read.foldlM (fun (e, found, failed) (name, source) =>
    match source with
    | .ok source => do
      let lines ← textLines source
      let hits := ((List.range lines.length).zip lines).filterMap fun (i, line) =>
        if s.finds patterns line then some (i + 1, line) else none
      let e : Effect :=
        { e with output := e.output.append (.ofOctets (octets (s.report name hits))) }
      return (e, found || !hits.isEmpty, failed)
    | .error error =>
      let errors := if s.letters.contains 's' then [] else complaint "grep" name error
      some ({ e with errors := e.errors ++ errors }, found, true))
    (Effect.result m 0, false, false)
  let status := if failed && !(found && s.letters.contains 'q') then 2 else if found then 0 else 1
  return { e with status }

/-- The nanoseconds of a time as `sleep` takes it, none for one without end. -/
def time? (text : String) : Option (Option Nat) :=
  if text = "infinity" ∨ text = "inf" then some none
  else
    let front := text.toList.takeWhile Char.isDigit
    let (fraction, rest) := match text.toList.dropWhile Char.isDigit with
      | '.' :: rest => (rest.takeWhile Char.isDigit, rest.dropWhile Char.isDigit)
      | rest => ([], rest)
    let factor? : Option Nat := match rest with
      | [] => some 1
      | ['s'] => some 1
      | ['m'] => some 60
      | ['h'] => some 3600
      | ['d'] => some 86400
      | _ => none
    if front.isEmpty && fraction.isEmpty then none
    else factor?.map fun factor =>
      some ((Text.decimal (front ++ (fraction ++ List.replicate 9 '0').take 9)) * factor)

/-- Times pass. -/
def sleep : Tool := fun arguments _ m =>
  match arguments.find? fun a => (time? a).isNone with
  | some wrong =>
    some (.complain m 1 ("sleep: invalid time interval ‘" ++ wrong ++
      "’\nTry 'sleep --help' for more information."))
  | none =>
    if arguments.isEmpty then
      some (.complain m 1 "sleep: missing operand\nTry 'sleep --help' for more information.")
    else
      ((arguments.filterMap time?).mapM id).map fun times =>
        { Effect.result m 0 with pause := times.foldl (· + ·) 0 }

/-- The numbers from one to another. -/
def seq : Tool := fun arguments _ m =>
  let numbers := arguments.filterMap (·.toInt?)
  let (first, step, last) : Int × Int × Int := match numbers with
    | [last] => (1, 1, last)
    | [first, last] => (first, 1, last)
    | first :: step :: last :: _ => (first, step, last)
    | [] => (1, 1, 0)
  let count := if step = 0 then 0 else ((last - first) / step + 1).toNat
  let count := if (0 < step ∧ last < first) ∨ (step < 0 ∧ first < last) then 0 else count
  let lines := (List.range count).map fun (i : Nat) => toString (first + step * (i : Int)) ++ "\n"
  some (.say m (.ofOctets (octets (String.join lines))))

/-- A line over and over again. -/
def yes : Tool := fun arguments _ m =>
  let line := if arguments.isEmpty then "y" else String.intercalate " " arguments
  some (.say m ⟨[], octets (line ++ "\n")⟩)

/-- A line with a newline. -/
def line (m : Machine) (text : String) : Option Effect :=
  some (.say m (.ofOctets (octets (text ++ "\n"))))

/-- The last name of a path, without an ending. -/
def basename : Tool := fun arguments _ m =>
  let path := Path.ofText (arguments.headD "")
  let name := (path.fileName?.map Text.Utf8.lossyText).getD path.text
  match arguments with
  | [_, ending] =>
    if ending.toList.isSuffixOf name.toList ∧ ending ≠ name then
      line m (String.ofList (name.toList.take (name.length - ending.length)))
    else line m name
  | _ => line m name

/-- A path without its last name. -/
def dirname : Tool := fun arguments _ m =>
  let text := Text.dropEndWhile (· == '/') (arguments.headD "").toList
  let front := Text.dropEndWhile (· == '/') (Text.dropEndWhile (· ≠ '/') text)
  line m (if !text.contains '/' then "." else if front.isEmpty then "/" else String.ofList front)

/-- What it reads, also written to files. -/
def tee : Tool := fun arguments input m => do
  let append := arguments.contains "-a"
  let l ← input.all?
  (arguments.filter (· ≠ "-a")).foldlM (fun e name =>
    if name = "/dev/stderr" then some { e with errors := e.errors ++ l }
    else match e.machine.write name l append with
      | .ok machine => some { e with machine }
      | .error error =>
        some { e with errors := e.errors ++ complaint "tee" name error, status := 1 })
    (Effect.say m (.ofOctets l))

/-- Files are made if there are none. -/
def touch : Tool := fun arguments _ m =>
  arguments.foldlM (fun e name =>
    match if e.machine.has name then .ok e.machine else e.machine.write name [] true with
    | .ok machine => some { e with machine }
    | .error error => some { e with
        errors := e.errors ++
          octets ("touch: cannot touch '" ++ name ++ "': " ++ error.cause ++ "\n")
        status := 1 })
    (Effect.result m 0)

/-- Files are removed. -/
def remove : Tool := fun arguments _ m =>
  let flags := (arguments.filter fun a => a.toList.head? == some '-').flatMap String.toList
  let quiet := flags.contains 'f'
  (arguments.filter fun a => a.toList.head? ≠ some '-').foldlM (fun e name =>
    let refuse (cause : String) : Option Effect := some { e with
      errors := e.errors ++ octets ("rm: cannot remove '" ++ name ++ "': " ++ cause ++ "\n")
      status := 1 }
    if e.machine.hasDirectory name && !flags.contains 'r' then refuse FileError.isDirectory.cause
    else match e.machine.remove? name with
      | some machine => some { e with machine }
      | none => if quiet then some e else refuse FileError.notFound.cause)
    (Effect.result m 0)

/-- Directories are made. -/
def makeDirectory : Tool := fun arguments _ m =>
  let ways := arguments.contains "-p"
  (arguments.filter (· ≠ "-p")).foldlM (fun e name =>
    let refuse (cause : String) : Option Effect := some { e with
      errors := e.errors ++
        octets ("mkdir: cannot create directory ‘" ++ name ++ "’: " ++ cause ++ "\n")
      status := 1 }
    match e.machine.local? name, e.machine.has name with
    | some p, false =>
      some { e with machine := { e.machine with tree := e.machine.tree.putDirectory p } }
    | some _, true => if ways && e.machine.hasDirectory name then some e else refuse "File exists"
    | none, _ => refuse FileError.permissionDenied.cause)
    (Effect.result m 0)

/-- The names in directories. -/
def listNames : Tool := fun arguments _ m =>
  let names := arguments.filter fun a => a.toList.head? ≠ some '-'
  (if names.isEmpty then ["."] else names).foldlM (fun e name =>
    match (m.local? name).map m.tree.find with
    | some (.ok (.directory entries)) =>
      let shown := (entries.map (·.1)).filter fun n => n.head? ≠ some Path.dot
      let lines := (shown.mergeSort fun a b => decide (a ≤ b)).map (· ++ octets "\n")
      some { e with output := e.output.append (.ofOctets lines.flatten) }
    | some (.ok .sealedDirectory) =>
      some { e with
        errors := e.errors ++
          octets ("ls: cannot open directory '" ++ name ++ "': Permission denied\n")
        status := 2 }
    | _ =>
      if m.has name then
        some { e with output := e.output.append (.ofOctets (octets (name ++ "\n"))) }
      else some { e with
        errors := e.errors ++
          octets ("ls: cannot access '" ++ name ++ "': No such file or directory\n")
        status := 2 })
    (Effect.result m 0)

/-- A condition decided, with the name that complaints start with. -/
def condition (name : String) (decision : Except Condition.Fault Bool) (m : Machine) : Effect :=
  match decision with
  | .ok true => .result m 0
  | .ok false => .result m 1
  | .error fault => .complain m 2 (name ++ ": " ++ fault.message)

/-- A format written, with the name that complaints start with. -/
def formatted (name : String) (arguments : List String) (m : Machine) : Effect :=
  match arguments with
  | [] => .complain m 2 (name ++ ": usage: printf format [arg ...]")
  | format :: arguments =>
    let (output, complaints, status) := Format.write format arguments
    let errors := complaints.flatMap fun c => octets (name ++ ": " ++ c ++ "\n")
    ⟨.ofOctets output, errors, status, 0, m⟩

/-- The tools and their names. -/
def all : List (String × Tool) :=
  [("cat", cat), ("head", head), ("tail", tail), ("tr", replace), ("wc", wordCount),
    ("grep", grep), ("sleep", sleep), ("seq", seq), ("yes", yes), ("basename", basename),
    ("dirname", dirname), ("tee", tee), ("touch", touch), ("rm", remove), ("mkdir", makeDirectory),
    ("ls", listNames),
    ("true", fun _ _ m => some (.result m 0)),
    ("false", fun _ _ m => some (.result m 1)),
    ("pwd", fun _ _ m => line m m.directory),
    ("test", fun arguments _ m => some (condition "test" (Condition.test m arguments) m)),
    ("[", fun arguments _ m => some (condition "[" (Condition.bracket m arguments) m)),
    ("printf", fun arguments _ m => some (formatted "printf" arguments m)),
    ("echo", fun arguments _ m => some (.say m (.ofOctets (Format.plainEcho arguments))))]

def find? (name : String) : Option Tool := all.lookup name

end Tool

end Conformance.Shell
