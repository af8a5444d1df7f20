import Conformance.Shell.Script
import Conformance.Text.Digits

/-!
# Reading scripts

A recursive descent over the characters of a script. Reserved words count only where a command could
start. The text of a here-document is cut out of what follows its line as soon as its delimiter is
read, so that the rest is read as if it were not there.

Every function counts down from a bound that is larger than what a script of this length can use.
-/

namespace Conformance.Shell

/-- Why a script cannot be read. -/
inductive Fault where
  /-- The token, none at the end, and the token that should be there. -/
  | unexpected (token expected : Option String)
  | unterminatedQuote
  | badSubstitution
  deriving DecidableEq, Repr

namespace Fault

def quoted (token : String) : String := "\"" ++ token ++ "\""

/-- The wording of a fault. -/
def message : Fault → String
  | .unexpected token expected =>
    "Syntax error: " ++ (match token with
      | none => "end of file"
      | some "\n" => "newline"
      | some token => quoted token) ++ " unexpected" ++
    (match expected with
      | none => ""
      | some token => " (expecting " ++ quoted token ++ ")")
  | .unterminatedQuote => "Syntax error: Unterminated quoted string"
  | .badSubstitution => "Bad substitution"

end Fault

namespace Reader

def isDelimiter (c : Char) : Bool := [' ', '\t', '\n', ';', '&', '|', '<', '>', '(', ')'].contains c

def isNameStart (c : Char) : Bool := c.isAlpha || c == '_'

def isNameChar (c : Char) : Bool := c.isAlphanum || c == '_'

/-- The text after blanks, joined lines and comments; `comment` says whether it starts in one. -/
def skipFrom (comment : Bool) : List Char → List Char
  | [] => []
  | c :: rest =>
    if comment then if c = '\n' then c :: rest else skipFrom true rest
    else if c = ' ' ∨ c = '\t' then skipFrom false rest
    else if c = '#' then skipFrom true rest
    else match c, rest with
      | '\\', '\n' :: rest => skipFrom false rest
      | _, _ => c :: rest

/-- The text after blanks, joined lines and a comment. -/
def skip (text : List Char) : List Char := skipFrom false text

/-- The text after blanks and empty lines. -/
def skipLines (n : Nat) (text : List Char) : List Char :=
  match n, skip text with
  | n + 1, '\n' :: rest => skipLines n rest
  | _, text => text

/-- The words that end a list of commands. -/
def closers : List String := ["then", "do", "done", "fi", "else", "elif", "esac", "\x7d"]

def frontWord (text : List Char) : String := String.ofList (text.takeWhile (!isDelimiter ·))

/-- The text after what stands in front of the next delimiter. -/
def afterWord (text : List Char) : List Char := text.dropWhile (!isDelimiter ·)

/-- The next token, as a fault names it. -/
def token? (text : List Char) : Option String :=
  match skip text with
  | [] => none
  | ';' :: ';' :: _ => some ";;"
  | '&' :: '&' :: _ => some "&&"
  | '|' :: '|' :: _ => some "||"
  | c :: rest => if isDelimiter c then some (String.ofList [c]) else some (frontWord (c :: rest))

/-- The next token is not the expected one. -/
def refuse {α : Type} (text : List Char) (expected : Option String) :
    Except Fault (α × List Char) :=
  .error (.unexpected (token? text) expected)

/-- No command can start here. -/
def atEnd (text : List Char) : Bool :=
  match text with
  | [] => true
  | ')' :: _ => true
  | ';' :: ';' :: _ => true
  | _ => closers.contains (frontWord text)

/-- The text after a reserved word. -/
def expect (n : Nat) (word : String) (text : List Char) : Except Fault (List Char) :=
  let text := skipLines n text
  if frontWord text = word then .ok (afterWord text)
  else .error (.unexpected (token? text) (some word))

/-- The text after a single character, which is expected. -/
def expectChar (n : Nat) (c : Char) (text : List Char) : Except Fault (List Char) :=
  match skipLines n text with
  | d :: rest =>
    if d = c then .ok rest else .error (.unexpected (token? (d :: rest)) (some (String.ofList [c])))
  | [] => .error (.unexpected none (some (String.ofList [c])))

/-- Where pieces stand, which decides what quotes them and what ends them. -/
inductive Place where
  | bare
  /-- Between double quotes. -/
  | quotes
  /-- Behind the name of a parameter in braces. -/
  | braces (quoted : Bool)
  | hereText
  deriving DecidableEq, Repr

namespace Place

/-- Characters here are quoted. -/
def quoted : Place → Bool
  | .bare => false
  | .quotes => true
  | .braces quoted => quoted
  | .hereText => true

/-- The character ends the pieces. -/
def ends (p : Place) (c : Char) : Bool :=
  match p with
  | .bare => isDelimiter c
  | .quotes => c == '"'
  | .braces _ => c == '\x7d'
  | .hereText => false

/-- A backslash quotes the character. -/
def escapes (p : Place) (c : Char) : Bool :=
  match p with
  | .bare => true
  | .quotes => ['$', '\x60', '"', '\\'].contains c
  | .braces quoted => !quoted || ['$', '\x60', '"', '\\', '\x7d'].contains c
  | .hereText => ['$', '\x60', '\\'].contains c

/-- Quotes are no text here. -/
def hasQuotes : Place → Bool
  | .hereText => false
  | _ => true

end Place

/-- A single-quoted text. -/
def single : List Char → Except Fault (List Piece × List Char)
  | [] => .error .unterminatedQuote
  | '\x27' :: rest => .ok ([], rest)
  | c :: rest => do
    let (pieces, rest) ← single rest
    return (.char true c :: pieces, rest)

/-- What stands between backquotes. -/
def backquoted : List Char → Except Fault (List Char × List Char)
  | [] => .error .unterminatedQuote
  | '\x60' :: rest => .ok ([], rest)
  | '\\' :: c :: rest => do
    let (text, rest) ← backquoted rest
    return (if ['$', '\x60', '\\'].contains c then c :: text else '\\' :: c :: text, rest)
  | c :: rest => do
    let (text, rest) ← backquoted rest
    return (c :: text, rest)

/-- Quoted pieces, which are something even if there are none. -/
def orNothing (pieces : List Piece) : List Piece := if pieces.isEmpty then [.nothing] else pieces

def specialNames : List Char := ['@', '*', '#', '?', '$', '!', '-']

/-- The name of a parameter and the text after it. -/
def parameterName? (text : List Char) : Option (String × List Char) :=
  match text with
  | [] => none
  | c :: rest =>
    if isNameStart c then
      some (String.ofList (text.takeWhile isNameChar), text.dropWhile isNameChar)
    else if c.isDigit || specialNames.contains c then some (String.ofList [c], rest)
    else none

/-- The lines up to the delimiter, and the text after it. -/
def hereLines (delimiter : List Char) (tabs : Bool) : List (List Char) → List Char × List Char
  | [] => ([], [])
  | line :: rest =>
    let line := if tabs then line.dropWhile (· == '\t') else line
    if line = delimiter then ([], List.intercalate ['\n'] rest)
    else
      let (text, rest) := hereLines delimiter tabs rest
      (line ++ '\n' :: text, rest)

/-- The text of a here-document that is announced on the line where `text` starts, and `text`
without it. -/
def cutHere (delimiter : List Char) (tabs : Bool) (text : List Char) : List Char × List Char :=
  let line := text.takeWhile (· ≠ '\n')
  match text.dropWhile (· ≠ '\n') with
  | [] => ([], text)
  | _ :: below =>
    let (here, rest) := hereLines delimiter tabs (below.splitOn '\n')
    (here, line ++ '\n' :: rest)

/-- The descriptor in front of a redirection, if one starts here. -/
def descriptor? (text : List Char) : Option (Option Nat × List Char) :=
  let digits := text.takeWhile Char.isDigit
  match text.dropWhile Char.isDigit with
  | c :: rest =>
    if c = '<' ∨ c = '>' then
      some (if digits.isEmpty then none else some (Text.decimal digits), c :: rest)
    else none
  | [] => none

/-- The operator of a redirection, with its descriptor if none is given. -/
def opening? : List Char → Option (Opening × Nat × Bool × List Char)
  | '>' :: '>' :: rest => some (.append, 1, false, rest)
  | '>' :: '&' :: rest => some (.same, 1, false, rest)
  | '>' :: '|' :: rest => some (.write, 1, false, rest)
  | '>' :: rest => some (.write, 1, false, rest)
  | '<' :: '<' :: '-' :: rest => some (.here, 0, true, rest)
  | '<' :: '<' :: rest => some (.here, 0, false, rest)
  | '<' :: '&' :: rest => some (.same, 0, false, rest)
  | '<' :: rest => some (.read, 0, false, rest)
  | _ => none

/-- The name in front of an equals sign that starts a word. -/
def assigned? (text : List Char) : Option (String × List Char) :=
  match text with
  | [] => none
  | c :: _ =>
    match text.dropWhile isNameChar with
    | '=' :: rest =>
      if isNameStart c then some (String.ofList (text.takeWhile isNameChar), rest) else none
    | _ => none

/-- The parts of a simple command read so far, reversed. -/
structure Draft where
  assignments : List Assignment
  words : List (List Piece)
  redirections : List Redirection

/-- The command of its parts. -/
def Draft.script (d : Draft) : Script :=
  match d.assignments, d.words.reverse with
  | [], [word] =>
    if Piece.plain? word = some "exec".toList then .reopened d.redirections.reverse
    else (Script.simple [] [word]).withRedirections d.redirections.reverse
  | assignments, words =>
    (Script.simple assignments.reverse words).withRedirections d.redirections.reverse

mutual

/-- Pieces up to what ends them. -/
def pieces (place : Place) : Nat → List Char → Except Fault (List Piece × List Char)
  | 0, text => refuse text none
  | _ + 1, [] => .ok ([], [])
  | n + 1, '\\' :: '\n' :: rest => pieces place n rest
  | n + 1, c :: rest =>
    if place.ends c then .ok ([], c :: rest)
    else if c = '\\' then
      match rest with
      | d :: rest => do
        let (more, rest) ← pieces place n rest
        if place.escapes d then return (.char true d :: more, rest)
        else return (.char true '\\' :: .char true d :: more, rest)
      | [] => .ok ([.char true '\\'], [])
    else if c = '\x27' ∧ !place.quoted then do
      let (front, rest) ← single rest
      let (more, rest) ← pieces place n rest
      return (orNothing front ++ more, rest)
    else if c = '"' ∧ place.hasQuotes then do
      let (front, rest) ← pieces .quotes n rest
      match rest with
      | _ :: rest =>
        let (more, rest) ← pieces place n rest
        return (orNothing front ++ more, rest)
      | [] => throw .unterminatedQuote
    else if c = '$' then do
      let (front, rest) ← replaced place.quoted n rest
      let (more, rest) ← pieces place n rest
      return (front :: more, rest)
    else if c = '\x60' then do
      let (text, rest) ← backquoted rest
      let (script, _) ← list false n text
      let (more, rest) ← pieces place n rest
      return (.output place.quoted script :: more, rest)
    else do
      let (more, rest) ← pieces place n rest
      return (.char place.quoted c :: more, rest)

/-- What a dollar sign starts. -/
def replaced (quoted : Bool) : Nat → List Char → Except Fault (Piece × List Char)
  | 0, text => refuse text none
  | n + 1, '(' :: '(' :: rest => do
    let (expression, rest) ← expression 0 n rest
    return (.sum quoted expression, rest)
  | n + 1, '(' :: rest => do
    let (script, rest) ← list false n rest
    return (.output quoted script, ← expectChar n ')' rest)
  | _ + 1, '\x7b' :: '#' :: '\x7d' :: rest => .ok (.parameter quoted "#" .value, rest)
  | _ + 1, '\x7b' :: '#' :: rest =>
    match parameterName? rest with
    | some (name, '\x7d' :: rest) => .ok (.parameter quoted name .length, rest)
    | _ => .error .badSubstitution
  | n + 1, '\x7b' :: rest =>
    match parameterName? rest with
    | some (name, rest) => do
      let (edit, rest) ← edit quoted n rest
      match rest with
      | '\x7d' :: rest => return (.parameter quoted name edit, rest)
      | _ => throw .badSubstitution
    | none => .error .badSubstitution
  | _ + 1, text =>
    match parameterName? text with
    | some (name, rest) => .ok (.parameter quoted name .value, rest)
    | none => .ok (.char quoted '$', text)

/-- What stands behind the name of a parameter. -/
def edit (quoted : Bool) : Nat → List Char → Except Fault (Edit × List Char)
  | 0, text => refuse text none
  | n + 1, text => do
    let (make, rest) : (List Piece → Edit) × List Char := match text with
      | ':' :: '-' :: rest => (.ifUnset true false, rest)
      | ':' :: '=' :: rest => (.ifUnset true true, rest)
      | ':' :: '+' :: rest => (.ifSet true, rest)
      | ':' :: '?' :: rest => (.required true, rest)
      | '-' :: rest => (.ifUnset false false, rest)
      | '=' :: rest => (.ifUnset false true, rest)
      | '+' :: rest => (.ifSet false, rest)
      | '?' :: rest => (.required false, rest)
      | '#' :: '#' :: rest => (.cut true true, rest)
      | '#' :: rest => (.cut true false, rest)
      | '%' :: '%' :: rest => (.cut false true, rest)
      | '%' :: rest => (.cut false false, rest)
      | rest => (fun _ => .value, rest)
    let cuts := match make [] with
      | .cut _ _ _ => true
      | _ => false
    let (word, rest) ← pieces (.braces (quoted && !cuts)) n rest
    return (make word, rest)

/-- The pieces of an expression inside `depth` brackets, up to the two that close it. -/
def expression (depth : Nat) : Nat → List Char → Except Fault (List Piece × List Char)
  | 0, text => refuse text none
  | _ + 1, [] => .error (.unexpected none (some "))"))
  | n + 1, ')' :: rest =>
    match depth, rest with
    | 0, ')' :: rest => .ok ([], rest)
    | 0, rest => refuse rest (some "))")
    | depth + 1, rest => do
      let (more, rest) ← expression depth n rest
      return (.char true ')' :: more, rest)
  | n + 1, '$' :: rest => do
    let (front, rest) ← replaced true n rest
    let (more, rest) ← expression depth n rest
    return (front :: more, rest)
  | n + 1, c :: rest => do
    let (more, rest) ← expression (if c = '(' then depth + 1 else depth) n rest
    return (.char true c :: more, rest)

/-- Commands up to what ends them, or up to the end of the line. -/
def list (oneLine : Bool) : Nat → List Char → Except Fault (Script × List Char)
  | 0, text => refuse text none
  | n + 1, text =>
    let text := if oneLine then skip text else skipLines n text
    if atEnd text || text.head? == some '\n' then .ok (.nothing, text)
    else do
      let (first, rest) ← pipeline n text
      let (first, rest) ← joined first n rest
      match skip rest with
      | ';' :: ';' :: rest => return (first, ';' :: ';' :: rest)
      | ';' :: rest =>
        let (second, rest) ← list oneLine n rest
        return (.sequence first second, rest)
      | '&' :: rest =>
        let (second, rest) ← list oneLine n rest
        return (.sequence (.background first) second, rest)
      | '\n' :: rest =>
        if oneLine then return (first, '\n' :: rest)
        else
          let (second, rest) ← list oneLine n rest
          return (.sequence first second, rest)
      | rest => return (first, rest)

/-- What is joined to a command by its result. -/
def joined (first : Script) : Nat → List Char → Except Fault (Script × List Char)
  | 0, text => refuse text none
  | n + 1, text =>
    match skip text with
    | '&' :: '&' :: rest => do
      let (second, rest) ← pipeline n (skipLines n rest)
      joined (.all first second) n rest
    | '|' :: '|' :: rest => do
      let (second, rest) ← pipeline n (skipLines n rest)
      joined (.any first second) n rest
    | rest => .ok (first, rest)

/-- Commands that read what the one before writes. -/
def pipeline : Nat → List Char → Except Fault (Script × List Char)
  | 0, text => refuse text none
  | n + 1, text =>
    let text := skip text
    if frontWord text = "!" then do
      let (body, rest) ← pipeline n (afterWord text)
      return (.negated body, rest)
    else do
      let (source, rest) ← command n text
      match skip rest with
      | '|' :: '|' :: rest => return (source, '|' :: '|' :: rest)
      | '|' :: rest =>
        let (target, rest) ← pipeline n (skipLines n rest)
        return (.piped source target, rest)
      | rest => return (source, rest)

/-- A command. -/
def command : Nat → List Char → Except Fault (Script × List Char)
  | 0, text => refuse text none
  | n + 1, text =>
    let text := skip text
    match text with
    | '(' :: rest => do
      let (body, rest) ← list false n rest
      redirected (.subshell body) [] n (← expectChar n ')' rest)
    | _ =>
      let rest := afterWord text
      match frontWord text with
      | "\x7b" => do
        let (body, rest) ← list false n rest
        redirected body [] n (← expect n "\x7d" rest)
      | "if" => do
        let (body, rest) ← branches n rest
        redirected body [] n rest
      | "while" => do
        let (body, rest) ← looped true n rest
        redirected body [] n rest
      | "until" => do
        let (body, rest) ← looped false n rest
        redirected body [] n rest
      | "for" => do
        let (body, rest) ← repeated n rest
        redirected body [] n rest
      | "case" => do
        let (word, rest) ← pieces .bare n (skip rest)
        let (arms, rest) ← arms n (← expect n "in" rest)
        redirected (.choice word arms) [] n rest
      | _ =>
        if atEnd text then refuse text none else simple ⟨[], [], []⟩ n text

/-- The rest of a conditional, after its first word. -/
def branches : Nat → List Char → Except Fault (Script × List Char)
  | 0, text => refuse text none
  | n + 1, text => do
    let (condition, rest) ← list false n text
    let (yes, rest) ← list false n (← expect n "then" rest)
    match frontWord (skipLines n rest) with
    | "elif" =>
      let (no, rest) ← branches n (afterWord (skipLines n rest))
      return (.branch condition yes no, rest)
    | "else" =>
      let (no, rest) ← list false n (afterWord (skipLines n rest))
      return (.branch condition yes no, ← expect n "fi" rest)
    | _ => return (.branch condition yes .nothing, ← expect n "fi" rest)

/-- The rest of a loop, after its first word. -/
def looped (wanted : Bool) : Nat → List Char → Except Fault (Script × List Char)
  | 0, text => refuse text none
  | n + 1, text => do
    let (condition, rest) ← list false n text
    let (body, rest) ← list false n (← expect n "do" rest)
    return (.loop wanted condition body, ← expect n "done" rest)

/-- The rest of a loop over words, after its first word. -/
def repeated : Nat → List Char → Except Fault (Script × List Char)
  | 0, text => refuse text none
  | n + 1, text => do
    let text := skip text
    let name := frontWord text
    let rest := skipLines n (afterWord text)
    let (words, rest) ←
      if frontWord rest = "in" then words n (afterWord rest)
      else pure ([[.parameter true "@" .value]], rest)
    let rest := match skip rest with
      | ';' :: rest => rest
      | rest => rest
    let (body, rest) ← list false n (← expect n "do" rest)
    return (.each name words body, ← expect n "done" rest)

/-- Words up to the end of a command. -/
def words : Nat → List Char → Except Fault (List (List Piece) × List Char)
  | 0, text => refuse text none
  | n + 1, text =>
    let text := skip text
    match text with
    | [] => .ok ([], [])
    | c :: _ =>
      if isDelimiter c then .ok ([], text)
      else do
        let (word, rest) ← pieces .bare n text
        let (more, rest) ← words n rest
        return (word :: more, rest)

/-- The arms of a choice, up to its last word. -/
def arms : Nat → List Char → Except Fault (List Arm × List Char)
  | 0, text => refuse text none
  | n + 1, text =>
    let text := skipLines n text
    if frontWord text = "esac" then .ok ([], afterWord text)
    else do
      let text := match text with
        | '(' :: rest => rest
        | text => text
      let (patterns, rest) ← patterns n text
      let (body, rest) ← list false n (← expectChar n ')' rest)
      match skipLines n rest with
      | ';' :: ';' :: rest =>
        let (more, rest) ← arms n rest
        return (.mk patterns body :: more, rest)
      | rest => return ([.mk patterns body], ← expect n "esac" rest)

/-- The patterns of an arm. -/
def patterns : Nat → List Char → Except Fault (List (List Piece) × List Char)
  | 0, text => refuse text none
  | n + 1, text => do
    let (word, rest) ← pieces .bare n (skip text)
    match skip rest with
    | '|' :: rest =>
      let (more, rest) ← patterns n rest
      return (word :: more, rest)
    | rest => return ([word], rest)

/-- A redirection, if one starts here. -/
def redirection? : Nat → List Char → Except Fault (Option (Redirection × List Char))
  | 0, _ => .ok none
  | n + 1, text => do
    let some (descriptor, rest) := descriptor? text | return none
    let some (opening, usual, tabs, rest) := opening? rest | return none
    let (target, rest) ← pieces .bare n (skip rest)
    if target.isEmpty then throw (.unexpected (token? rest) none)
    match opening, Piece.literal? target with
    | .here, some (delimiter, quoted) =>
      let (text, rest) := cutHere delimiter tabs rest
      let (body, _) ←
        if quoted then pure (text.map (Piece.char true), []) else pieces .hereText n text
      return some (.mk (descriptor.getD usual) .here body, rest)
    | _, _ => return some (.mk (descriptor.getD usual) opening target, rest)

/-- A command followed by redirections. -/
def redirected (body : Script) (found : List Redirection) :
    Nat → List Char → Except Fault (Script × List Char)
  | 0, text => refuse text none
  | n + 1, text => do
    let text := skip text
    match ← redirection? n text with
    | some (r, rest) => redirected body (r :: found) n rest
    | none => return (body.withRedirections found.reverse, text)

/-- The rest of a simple command. -/
def simple (draft : Draft) : Nat → List Char → Except Fault (Script × List Char)
  | 0, text => refuse text none
  | n + 1, text => do
    let text := skip text
    match ← redirection? n text with
    | some (r, rest) => simple { draft with redirections := r :: draft.redirections } n rest
    | none =>
      match text, draft with
      | [], _ => return (draft.script, [])
      | '(' :: rest, ⟨[], [word], []⟩ =>
        let some name := Piece.plain? word | refuse text none
        let rest ← expectChar n ')' rest
        let (body, rest) ← command n (skipLines n rest)
        return (.define (String.ofList name) body, rest)
      | '(' :: _, _ => refuse text none
      | c :: _, _ =>
        if isDelimiter c then
          if draft.words.isEmpty && draft.assignments.isEmpty && draft.redirections.isEmpty then
            refuse text none
          else return (draft.script, text)
        else
          match draft.words, assigned? text with
          | [], some (name, rest) =>
            let (value, rest) ← pieces .bare n rest
            simple { draft with assignments := .mk name value :: draft.assignments } n rest
          | _, _ =>
            let (word, rest) ← pieces .bare n text
            simple { draft with words := word :: draft.words } n rest

end

end Reader

/-- The commands of a line, with the number of its first line. -/
structure Line where
  number : Nat
  script : Script

/-- What a script's text holds: its lines, up to one that cannot be read. -/
structure Reading where
  lines : List Line
  fault? : Option (Nat × Fault)

namespace Reading

/-- The lines of the text from line `number` on. -/
def linesFrom (bound : Nat) : Nat → Nat → List Char → Reading
  | 0, _, _ => ⟨[], none⟩
  | n + 1, number, text =>
    match text with
    | [] => ⟨[], none⟩
    | '\n' :: rest => linesFrom bound n (number + 1) rest
    | text =>
      match Reader.list true bound text with
      | .error fault => ⟨[], some (number, fault)⟩
      | .ok (script, rest) =>
        match rest with
        | [] => ⟨[⟨number, script⟩], none⟩
        | '\n' :: _ =>
          let passed := (text.take (text.length - rest.length)).count '\n'
          let more := linesFrom bound n (number + passed) rest
          ⟨⟨number, script⟩ :: more.lines, more.fault?⟩
        | rest => ⟨[], some (number, .unexpected (Reader.token? rest) none)⟩

/-- The lines of a script. -/
def ofText (text : List Char) : Reading :=
  linesFrom (8 * text.length + 16) (2 * text.length + 2) 1 text

end Reading

end Conformance.Shell
