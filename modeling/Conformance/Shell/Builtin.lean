import Conformance.Shell.Session

/-!
# Builtin commands

The commands that act on the shell itself and need nothing carried out inside them.
-/

namespace Conformance.Shell.Builtin

/-- The number that an argument writes in decimal digits. -/
def number? (text : String) : Option Nat :=
  if text.isEmpty then none else Text.number? 10 text.toList

/-- The shell, or what it carries out, is left with a status. -/
def leave (name : String) (flow : Flow) (arguments : List String) (s : Session) : Session :=
  match arguments with
  | [] => { s with flow }
  | text :: _ =>
    match number? text with
    | some status => { s with status, flow }
    | none => s.abandon (name ++ ": Illegal number: " ++ text)

/-- Loops are left, the last of them to go on if `again`. -/
def leaveLoops (name : String) (again : Bool) (arguments : List String) (s : Session) : Session :=
  match number? (arguments.headD "1") with
  | some (n + 1) =>
    if s.loops = 0 then { s with status := 0 }
    else { s with status := 0, flow := .leaving (min (n + 1) s.loops) again }
  | _ => s.abandon (name ++ ": Illegal number: " ++ arguments.headD "")

/-- The parameters without the first ones. -/
def shift (arguments : List String) (s : Session) : Session :=
  match number? (arguments.headD "1") with
  | some n =>
    if n ≤ s.arguments.length then { s with status := 0, arguments := s.arguments.drop n }
    else s.abandon "shift: can't shift that many"
  | none => s.abandon ("shift: Illegal number: " ++ arguments.headD "")

/-- Variables set by arguments with an equals sign. -/
def assign (arguments : List String) (s : Session) : Session :=
  arguments.foldl (fun s argument =>
    match Reader.assigned? argument.toList with
    | some (name, value) => s.setVariable name (String.ofList value)
    | none => s) { s with status := 0 }

/-- Variables and functions forgotten. -/
def unset (arguments : List String) (s : Session) : Session :=
  { s with
    status := 0
    bindings := s.bindings.filter fun v => !arguments.contains v.1
    functions := s.functions.filter fun f => !arguments.contains f.1 }

/-- The parameters set, if that is what is asked for. -/
def setArguments (arguments : List String) (s : Session) : Session :=
  let s := { s with status := 0 }
  match arguments with
  | "--" :: rest => { s with arguments := rest }
  | first :: _ =>
    if first.toList.head? = some '-' ∨ first.toList.head? = some '+' then s
    else { s with arguments }
  | [] => s

/-- The text of a line as `read` takes it, without the meaning of its backslashes unless `raw`. -/
def unbackslashed (raw : Bool) : List Char → List Char
  | '\\' :: c :: rest =>
    if raw then '\\' :: c :: unbackslashed raw rest else c :: unbackslashed raw rest
  | c :: rest => c :: unbackslashed raw rest
  | [] => []

def isBlank (c : Char) : Bool := c == ' ' || c == '\t'

/-- The parts of a line for the given names, the last of which gets what is left. -/
def shares : List String → List Char → List (String × List Char)
  | [], _ => []
  | [name], text => [(name, Text.dropEndWhile isBlank (text.dropWhile isBlank))]
  | name :: names, text =>
    let text := text.dropWhile isBlank
    (name, text.takeWhile (!isBlank ·)) :: shares names (text.dropWhile (!isBlank ·))

/-- A line of the input put into variables. -/
def read (arguments : List String) (s : Session) : Session :=
  let raw := arguments.contains "-r"
  let names := arguments.filter fun a => a.toList.head? ≠ some '-'
  match Stream.lines (s.input.take (s.input.octets.length + s.input.forever.length)) with
  | [] => (shares names []).foldl (fun s (name, value) => s.setVariable name (String.ofList value))
      { s with status := 1 }
  | line :: _ =>
    let whole := line.getLast? = some 10
    let text := Text.Utf8.lossy (if whole then line.dropLast else line)
    let input := { s.input with octets := s.input.octets.drop line.length }
    (shares names (unbackslashed raw text)).foldl
      (fun s (name, value) => s.setVariable name (String.ofList value))
      { s with input, status := if whole then 0 else 1 }

/-- The numbers of signals. -/
def signals : List (String × Nat) :=
  [("0", 0), ("HUP", 1), ("INT", 2), ("QUIT", 3), ("ILL", 4), ("TRAP", 5), ("ABRT", 6), ("BUS", 7),
    ("FPE", 8), ("KILL", 9), ("USR1", 10), ("SEGV", 11), ("USR2", 12), ("PIPE", 13), ("ALRM", 14),
    ("TERM", 15), ("CHLD", 17), ("CONT", 18), ("STOP", 19), ("TSTP", 20), ("TTIN", 21),
    ("TTOU", 22), ("URG", 23), ("WINCH", 28)]

/-- The signal of a name or number. -/
def signal? (text : String) : Option Nat :=
  match number? text with
  | some n => some n
  | none =>
    let name :=
      if "SIG".toList.isPrefixOf text.toList then String.ofList (text.toList.drop 3) else text
    signals.lookup name

/-- What a signal does to the shell itself. -/
def strike (signal : Nat) (s : Session) : Session :=
  if [0, 17, 18, 23, 28].contains signal then { s with status := 0 }
  else if [19, 20, 21, 22].contains signal then { s with flow := .cutOff }
  else { s with flow := .killed signal }

/-- Another directory entered. -/
def enter (arguments : List String) (s : Session) : Session :=
  let path := (arguments.find? (· ≠ "--")).getD "/root"
  if s.machine.hasDirectory path && s.machine.admits path then
    let directory := s.machine.absolute path
    { s with status := 0, machine := { s.machine with directory } }.setVariable "PWD" directory
  else s.fail 2 ("cd: can't cd to " ++ path)

/-- A signal sent. -/
def kill (arguments : List String) (s : Session) : Session :=
  let (signal?, targets) := match arguments with
    | "-s" :: name :: rest => (signal? name, rest)
    | "-n" :: name :: rest => (signal? name, rest)
    | first :: rest =>
      match first.toList with
      | '-' :: name => (signal? (String.ofList name), rest)
      | _ => (some 15, first :: rest)
    | [] => (none, [])
  match signal? with
  | none => s.fail 2 "kill: Illegal option"
  | some signal =>
    if targets.contains (toString Session.processNumber) then strike signal s
    else if targets.contains (toString (Session.processNumber + 1)) then { s with status := 0 }
    else s.fail 1 "kill: No such process\n"

/-- The background commands are waited for. -/
def wait (s : Session) : Session :=
  { s with status := 0 }.wait (s.backgroundEnd - s.clock)

/-- A format written, after what is wrong with it. -/
def printf (arguments : List String) (s : Session) : Session :=
  let e := Tool.formatted (s.place "printf") arguments s.machine
  ({ s with status := e.status }.write 2 (.ofOctets e.errors)).write 1 e.output

/-- What the shell's own commands do. -/
def all : List (String × (List String → Session → Session)) :=
  [(":", fun _ s => { s with status := 0 }),
    ("exit", leave "exit" .exited), ("return", leave "return" .returning),
    ("break", leaveLoops "break" false), ("continue", leaveLoops "continue" true),
    ("shift", shift), ("set", setArguments), ("export", assign), ("readonly", assign),
    ("local", assign), ("unset", unset), ("read", read), ("kill", kill),
    ("wait", fun _ s => wait s), ("cd", enter), ("trap", fun _ s => { s with status := 0 }),
    ("umask", fun _ s => { s with status := 0 }), ("ulimit", fun _ s => { s with status := 0 }),
    ("echo", fun arguments s =>
      { s with status := 0 }.write 1 (.ofOctets (Format.echo arguments))),
    ("printf", printf),
    ("test", fun arguments s =>
      s.useTool (fun arguments _ m =>
        some (Tool.condition (s.place "test") (Condition.test m arguments) m)) arguments),
    ("[", fun arguments s =>
      s.useTool (fun arguments _ m =>
        some (Tool.condition (s.place "[") (Condition.bracket m arguments) m)) arguments)]

def find? (name : String) : Option (List String → Session → Session) := all.lookup name

end Conformance.Shell.Builtin
