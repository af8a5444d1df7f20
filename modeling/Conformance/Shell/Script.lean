/-!
# Scripts

A script is made of commands, a command of words, and a word of pieces. A piece remembers whether it
was quoted, because only what is not quoted is split into fields or taken as a pattern. Pieces can
hold scripts, whose output they stand for.
-/

namespace Conformance.Shell

/-- How a redirection opens its target. -/
inductive Opening where
  | read
  | write
  | append
  /-- The target is the number of another descriptor. -/
  | same
  /-- The target is the text itself. -/
  | here
  deriving DecidableEq, Repr

mutual

/-- A piece of a word. -/
inductive Piece where
  | char (quoted : Bool) (c : Char)
  /-- Quotes with nothing in them. -/
  | nothing
  | parameter (quoted : Bool) (name : String) (edit : Edit)
  | sum (quoted : Bool) (expression : List Piece)
  | output (quoted : Bool) (script : Script)

/-- What is made of the value of a parameter. -/
inductive Edit where
  | value
  | length
  /-- The word instead, if it is not set, or also if it is empty. -/
  | ifUnset (alsoEmpty assign : Bool) (word : List Piece)
  /-- The word instead, if it is set, or only if it is not empty. -/
  | ifSet (notEmpty : Bool) (word : List Piece)
  /-- The shell gives up with the word as a message, if it is not set, or also if it is empty. -/
  | required (alsoEmpty : Bool) (word : List Piece)
  /-- Without the shortest or longest match of a pattern at its start or end. -/
  | cut (atStart longest : Bool) (pattern : List Piece)

/-- Where a descriptor of a command leads. -/
inductive Redirection where
  | mk (descriptor : Nat) (opening : Opening) (target : List Piece)

/-- An arm of a choice: its patterns and its commands. -/
inductive Arm where
  | mk (patterns : List (List Piece)) (body : Script)

/-- A value given to a variable. -/
inductive Assignment where
  | mk (name : String) (value : List Piece)

/-- Commands. -/
inductive Script where
  | nothing
  | simple (assignments : List Assignment) (words : List (List Piece))
  | redirected (body : Script) (redirections : List Redirection)
  /-- Redirections of the shell itself. -/
  | reopened (redirections : List Redirection)
  | sequence (first second : Script)
  | background (body : Script)
  | all (first second : Script)
  | any (first second : Script)
  | negated (body : Script)
  | piped (source target : Script)
  | subshell (body : Script)
  | branch (condition yes no : Script)
  /-- The body as long as the condition has the wanted result. -/
  | loop (wanted : Bool) (condition body : Script)
  | each (name : String) (words : List (List Piece)) (body : Script)
  | choice (word : List Piece) (arms : List Arm)
  | define (name : String) (body : Script)

end

namespace Script

/-- A command with its redirections, if it has any. -/
def withRedirections (body : Script) : List Redirection → Script
  | [] => body
  | redirections => .redirected body redirections

end Script

namespace Piece

/-- The text of a word that nothing in is quoted or replaced. -/
def plain? : List Piece → Option (List Char)
  | [] => some []
  | .char false c :: rest => (plain? rest).map (c :: ·)
  | _ => none

/-- The text of a word in which nothing is replaced, and whether something is quoted. -/
def literal? : List Piece → Option (List Char × Bool)
  | [] => some ([], false)
  | .char quoted c :: rest => (literal? rest).map fun (text, q) => (c :: text, quoted || q)
  | .nothing :: rest => (literal? rest).map fun (text, _) => (text, true)
  | _ => none

end Piece

end Conformance.Shell
