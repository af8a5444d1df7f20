import Conformance.Shell.Builtin
import Conformance.Shell.Expansion

/-!
# Evaluation

Commands are carried out by recursion on the script. What is not a part of the script, which is the
body of a function or a text that is read while it runs, is left to `nested`, so that how deep such
calls may go is decided elsewhere. Loops have a bound that no script of use comes near; one that
reaches it is taken to run for ever.
-/

namespace Conformance.Shell

abbrev Act := StateM Session

namespace Act

/-- Done only if the session goes on. -/
def whenGoing (act : Act Unit) : Act Unit := do if (← get).going then act

/-- Done in a subshell. -/
def apart (act : Act Unit) : Act Unit := do
  let parent ← get
  act
  modify parent.rejoin

/-- Done in a subshell, and what it writes to its output. -/
def collected (act : Act Unit) : Act Stream := do
  let parent ← get
  set parent.collecting
  act
  let child ← get
  set ((parent.rejoin child).dropBuffers parent.buffers.length)
  return child.written parent.buffers.length

/-- The bound of loops. -/
def loopBound : Nat := 200000

/-- Whether a loop goes on after its body or condition. -/
def afterRound : Act Bool := do
  match (← get).flow with
  | .going => return true
  | .leaving (n + 2) again => do
    modify fun s => { s with flow := .leaving (n + 1) again }
    return false
  | .leaving _ again => do
    modify fun s => { s with flow := .going }
    return again
  | _ => return false

/-- Done inside one more loop. -/
def inLoop (act : Act Unit) : Act Unit := do
  modify fun s => { s with loops := s.loops + 1 }
  act
  modify fun s => { s with loops := s.loops - 1 }

/-- The body while the condition's result is the wanted one; `status` is that of the last round. -/
def repeatWhile (wanted : Bool) (condition body : Act Unit) (status : Nat) : Nat → Act Unit
  | 0 => modify fun s => { s with flow := .cutOff }
  | n + 1 => do
    condition
    if (← get).going then
      if ((← get).status == 0) == wanted then
        body
        let status := (← get).status
        if ← afterRound then repeatWhile wanted condition body status n
      else modify fun s => { s with status }
    else if ← afterRound then repeatWhile wanted condition body status n

/-- The body for each value of a variable. -/
def repeatFor (name : String) (body : Act Unit) : List String → Act Unit
  | [] => pure ()
  | value :: rest => do
    modify (·.setVariable name value)
    body
    if ← afterRound then repeatFor name body rest

end Act

/-- Where a redirection to a path leads. -/
def Session.sinkOf (s : Session) (path : String) : Sink :=
  if path = "/dev/stdout" then (s.sinks.lookup 1).getD .nowhere
  else if path = "/dev/stderr" then (s.sinks.lookup 2).getD .nowhere
  else if path = Machine.nullDevice then .nowhere
  else .file path

/-- What the shell says of a file that it cannot open or make. -/
def openingFault (opening : Opening) (path : String) (e : FileError) : String :=
  match opening, e with
  | .read, .notFound => "cannot open " ++ path ++ ": No such file"
  | .read, e => "cannot open " ++ path ++ ": " ++ e.cause
  | _, .notFound => "cannot create " ++ path ++ ": Directory nonexistent"
  | _, e => "cannot create " ++ path ++ ": " ++ e.cause

/-- The session after a redirection, or with a message if it fails. -/
def Session.redirect (descriptor : Nat) (opening : Opening) (target : String) (s : Session) :
    Except String Session :=
  match opening with
  | .read =>
    if target = "/dev/stdin" then .ok s
    else match s.machine.read target with
      | .ok input => .ok (if descriptor = 0 then { s with input } else s)
      | .error e => .error (openingFault opening target e)
  | .here => .ok { s with input := .ofOctets (Text.Utf8.octets target) }
  | .same =>
    if target = "-" then .ok (s.setSink descriptor .nowhere)
    else match (Builtin.number? target).map fun n => (n, s.sinks.lookup n) with
      | some (_, some sink) => .ok (s.setSink descriptor sink)
      | some (0, none) => .ok s
      | _ => .error (target ++ ": Bad file descriptor")
  | opening =>
    match s.sinkOf target with
    | .file path =>
      match s.machine.write path [] (opening == .append) with
      | .ok machine => .ok ({ s with machine }.setSink descriptor (.file path))
      | .error e => .error (openingFault opening target e)
    | sink => .ok (s.setSink descriptor sink)

def shellNames : List String := ["sh", "dash", "bash"]

/-- Something in a word is the output of a command. -/
def hasOutput (word : List Piece) : Bool :=
  word.any fun
    | .output _ _ => true
    | _ => false

/-- A simple command has an output in it. -/
def commandHasOutput (assignments : List Assignment) (words : List (List Piece)) : Bool :=
  words.any hasOutput || assignments.any fun (.mk _ value) => hasOutput value

/-- The lines of a text, which are carried out by `nested`. -/
def runText (nested : Script → Act Unit) (text : List Char) : Act Unit := do
  let reading := Reading.ofText text
  for line in reading.lines do
    Act.whenGoing do
      modify fun s => { s with line := line.number }
      nested line.script
  match reading.fault? with
  | some (number, fault) =>
    Act.whenGoing (modify fun s => { s with line := number }.abandon fault.message)
  | none => pure ()

/-- Another shell with its arguments. -/
def runShell (nested : Script → Act Unit) (shell : String) (arguments : List String) :
    Act Unit := do
  let parent ← get
  let fresh : Session :=
    { parent with
      name := shell, line := 1, arguments := [], functions := [], loops := 0
      bindings := [("PWD", Machine.workingDirectory)] }
  let flags := arguments.takeWhile fun a => a.toList.head? == some '-'
  let operands := arguments.dropWhile fun a => a.toList.head? == some '-'
  if flags.any fun a => a.toList.contains 'c' then
    match operands with
    | [] => set ({ fresh with line := 0 }.abandon "-c requires an argument")
    | [code] =>
      set fresh
      runText nested code.toList
    | code :: name :: arguments =>
      set { fresh with name, arguments }
      runText nested code.toList
  else
    match operands with
    | [] =>
      set fresh
      runText nested (Text.Utf8.lossy ((parent.input.all?).getD []))
    | path :: arguments =>
      match parent.machine.read path with
      | .ok text =>
        set { fresh with name := path, arguments }
        runText nested (Text.Utf8.lossy ((text.all?).getD []))
      | .error e =>
        set ({ fresh with line := 0 }.abandon (openingFault .read path e))
  modify parent.rejoin

/-- The name of a command without the directories that hold commands. -/
def commandName (name : String) : String :=
  match (Path.ofText name).parts with
  | [.root, .name bin, .name base] =>
    if bin = Text.Utf8.octets "bin" then Text.Utf8.lossyText base else name
  | [.root, .name usr, .name bin, .name base] =>
    if usr = Text.Utf8.octets "usr" ∧ bin = Text.Utf8.octets "bin" then Text.Utf8.lossyText base
    else name
  | _ => name

/-- A process of its own, which may be killed. -/
def runProcess (nested : Script → Act Unit) : List String → Act Unit
  | [] => pure ()
  | name :: arguments => do
    let base := commandName name
    if shellNames.contains base then runShell nested name arguments
    else if base = "env" then
      runProcess nested (arguments.dropWhile fun a => a.toList.contains '=')
    else
      match Tool.find? base with
      | some tool => modify (·.useTool tool arguments)
      | none =>
        if name.toList.contains '/' && (← get).machine.has name then
          modify (·.fail 126 (name ++ ": Permission denied"))
        else modify (·.fail 127 (name ++ ": not found"))
termination_by words => words.length
decreasing_by
  have := (List.dropWhile_sublist (l := arguments) fun a => a.toList.contains '=').length_le
  simp only [List.length_cons]
  omega

/-- What a shell says when a process is killed by a signal. -/
def deathNotice : Nat → String
  | 6 => "Aborted\n"
  | 9 => "Killed\n"
  | 11 => "Segmentation fault\n"
  | 15 => "Terminated\n"
  | _ => ""

/-- A command that is no part of the shell and does not take the shell with it. -/
def runExternal (nested : Script → Act Unit) (words : List String) : Act Unit := do
  let flow := (← get).flow
  runProcess nested words
  match (← get).flow with
  | .killed signal =>
    modify fun s => { s with flow, status := 128 + signal }.writeText 2 (deathNotice signal)
  | _ => pure ()

/-- A command of a shell. -/
def runCommand (nested : Script → Act Unit) (name : String) (arguments : List String) :
    Act Unit := do
  match (← get).functions.lookup name with
  | some body =>
    let outer := (← get).arguments
    modify fun s => { s with arguments }
    nested body
    modify fun s => { s with
      arguments := outer
      flow := if s.flow == .returning then .going else s.flow }
  | none =>
    match name with
    | "eval" => runText nested (String.intercalate " " arguments).toList
    | "exec" =>
      let base := commandName (arguments.headD "")
      if shellNames.contains base || base = "env" || (Tool.find? base).isSome then
        runProcess nested arguments
        Act.whenGoing (modify fun s => { s with flow := .exited })
      else
        modify fun s =>
          { s.fail 127 ("exec: " ++ arguments.headD "" ++ ": not found") with flow := .exited }
    | "command" => runExternal nested arguments
    | name =>
      match Builtin.find? name with
      | some act => modify (act arguments)
      | none => runExternal nested (name :: arguments)

mutual

/-- What a piece stands for. -/
def expandPiece (nested : Script → Act Unit) : Piece → Act (List Atom)
  | .char quoted c => return [.char (if quoted then .quoted else .bare) c]
  | .nothing => return [.present]
  | .parameter quoted name edit => expandEdit nested quoted name edit
  | .sum quoted expression => do
    let text := Atom.text (← expandPieces nested expression)
    match Arithmetic.evaluate (← get).bindings text with
    | .ok (value, bindings) =>
      modify fun s => { s with bindings }
      return Atom.ofValue quoted (toString value).toList
    | .error fault =>
      modify (·.abandon (fault.message (String.ofList text)))
      return []
  | .output quoted script => do
    match (← Act.collected (eval nested script)).all? with
    | some l =>
      let text := Text.dropEndWhile (· == '\n') ((Text.Utf8.lossy l).filter (· ≠ '\x00'))
      return Atom.ofValue quoted text
    | none =>
      modify fun s => { s with flow := .cutOff }
      return []

/-- What the value of a parameter becomes. -/
def expandEdit (nested : Script → Act Unit) (quoted : Bool) (name : String) :
    Edit → Act (List Atom)
  | .value => do
    let s ← get
    if name = "@" ∨ (name = "*" ∧ !quoted) then return Atom.ofArguments quoted s.arguments
    else return Atom.ofValue quoted ((s.parameter? name).getD "").toList
  | .length => do
    let value := ((← get).parameter? name).getD ""
    return Atom.ofValue quoted (toString value.utf8ByteSize).toList
  | .ifUnset alsoEmpty assign word => do
    match (← get).parameter? name with
    | some value =>
      if alsoEmpty && value.isEmpty then
        let atoms ← expandPieces nested word
        if assign then modify (·.setVariable name (String.ofList (Atom.text atoms)))
        return atoms
      else return Atom.ofValue quoted value.toList
    | none =>
      let atoms ← expandPieces nested word
      if assign then modify (·.setVariable name (String.ofList (Atom.text atoms)))
      return atoms
  | .ifSet notEmpty word => do
    match (← get).parameter? name with
    | some value =>
      if notEmpty && value.isEmpty then return Atom.ofValue quoted []
      else expandPieces nested word
    | none => return Atom.ofValue quoted []
  | .required alsoEmpty word => do
    let value := ((← get).parameter? name).filter fun value => !(alsoEmpty && value.isEmpty)
    match value with
    | some value => return Atom.ofValue quoted value.toList
    | none =>
      let text := String.ofList (Atom.text (← expandPieces nested word))
      let text := if text.isEmpty then "parameter not set" else text
      modify (·.abandon (name ++ ": " ++ text))
      return []
  | .cut atStart longest word => do
    let p := Wildcard.pattern (Atom.items (← expandPieces nested word))
    let value := (((← get).parameter? name).getD "").toList
    return Atom.ofValue quoted
      (if atStart then Wildcard.dropFront p longest value else Wildcard.dropBack p longest value)

/-- What the pieces of a word stand for. -/
def expandPieces (nested : Script → Act Unit) : List Piece → Act (List Atom)
  | [] => return []
  | piece :: rest => do
    let front ← expandPiece nested piece
    return front ++ (← expandPieces nested rest)

/-- The fields that words make. -/
def expandWords (nested : Script → Act Unit) : List (List Piece) → Act (List String)
  | [] => return []
  | word :: rest => do
    let front := Atom.fields (← expandPieces nested word)
    return front ++ (← expandWords nested rest)

/-- The values of assignments. -/
def expandAssignments (nested : Script → Act Unit) :
    List Assignment → Act (List (String × String))
  | [] => return []
  | .mk name value :: rest => do
    let text := String.ofList (Atom.text (← expandPieces nested value))
    return (name, text) :: (← expandAssignments nested rest)

/-- Redirections in order, up to one that fails. -/
def redirectAll (nested : Script → Act Unit) : List Redirection → Act Bool
  | [] => return true
  | .mk descriptor opening target :: rest => do
    let text := String.ofList (Atom.text (← expandPieces nested target))
    match (← get).redirect descriptor opening text with
    | .ok s =>
      set s
      redirectAll nested rest
    | .error message =>
      modify (·.fail 2 message)
      return false

/-- One of the patterns matches the text. -/
def matchesAny (nested : Script → Act Unit) (text : List Char) : List (List Piece) → Act Bool
  | [] => return false
  | word :: rest => do
    if Wildcard.accepts (Wildcard.pattern (Atom.items (← expandPieces nested word))) text then
      return true
    else matchesAny nested text rest

/-- The first arm with a pattern that matches the text. -/
def choose (nested : Script → Act Unit) (text : List Char) : List Arm → Act Unit
  | [] => modify fun s => { s with status := 0 }
  | .mk patterns body :: rest => do
    if ← matchesAny nested text patterns then
      modify fun s => { s with status := 0 }
      eval nested body
    else choose nested text rest

/-- Commands carried out. -/
def eval (nested : Script → Act Unit) : Script → Act Unit
  | .nothing => pure ()
  | .simple assignments words => Act.whenGoing do
    let fields ← expandWords nested words
    let values ← expandAssignments nested assignments
    Act.whenGoing do
      let before := (← get).bindings
      for (name, value) in values do modify (·.setVariable name value)
      match fields with
      | [] =>
        unless commandHasOutput assignments words do modify fun s => { s with status := 0 }
      | name :: arguments =>
        runCommand nested name arguments
        unless values.isEmpty do modify fun s => { s with bindings := before }
  | .redirected body redirections => Act.whenGoing do
    let before ← get
    if ← redirectAll nested redirections then eval nested body
    modify fun s => { s with sinks := before.sinks, input := before.input }
  | .reopened redirections => Act.whenGoing do
    if ← redirectAll nested redirections then modify fun s => { s with status := 0 }
    else modify fun s => { s with flow := .exited }
  | .sequence first second => do
    eval nested first
    eval nested second
  | .background body => Act.whenGoing do
    let before ← get
    Act.apart do
      modify fun s => { s with input := .empty }
      eval nested body
    let ended := (← get).clock
    modify fun s => { s with
      status := 0, clock := before.clock, flow := before.flow
      backgroundEnd := max s.backgroundEnd ended }
  | .all first second => do
    eval nested first
    if (← get).status = 0 then eval nested second
  | .any first second => do
    eval nested first
    if (← get).status ≠ 0 then eval nested second
  | .negated body => do
    eval nested body
    Act.whenGoing (modify fun s => { s with status := if s.status = 0 then 1 else 0 })
  | .piped source target => Act.whenGoing do
    let text ← Act.collected (eval nested source)
    Act.apart do
      modify fun s => { s with input := text }
      eval nested target
  | .subshell body => Act.whenGoing (Act.apart (eval nested body))
  | .branch condition yes no => do
    eval nested condition
    Act.whenGoing do
      if (← get).status = 0 then eval nested yes
      else
        modify fun s => { s with status := 0 }
        eval nested no
  | .loop wanted condition body =>
    Act.whenGoing
      (Act.inLoop
        (Act.repeatWhile wanted (eval nested condition) (eval nested body) 0 Act.loopBound))
  | .each name words body => Act.whenGoing do
    let values ← expandWords nested words
    modify fun s => { s with status := 0 }
    Act.inLoop (Act.repeatFor name (eval nested body) values)
  | .choice word arms => Act.whenGoing do
    let text := Atom.text (← expandPieces nested word)
    choose nested text arms
  | .define name body => Act.whenGoing do
    modify fun s => { s with status := 0, functions := (name, body) :: s.functions }

end

/-- Commands carried out with calls nested up to a depth; what would go deeper never ends. -/
def evalTo : Nat → Script → Act Unit
  | 0 => fun _ => modify fun s => { s with flow := .cutOff }
  | depth + 1 => eval (evalTo depth)

/-- How deep calls may be nested. -/
def depthBound : Nat := 64

end Conformance.Shell
