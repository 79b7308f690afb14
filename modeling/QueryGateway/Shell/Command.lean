import QueryGateway.Shell.Octets

/-!
# Scripts

The form of the scripts that engines may be written in: words with their expansions, and commands made of them. What
stands inside a command substitution is kept as text and read when it is run.
-/

namespace QueryGateway.Shell

/-- What an expansion does with the value of its parameter. -/
inductive Modifier where
  | plain
  /-- `-`, `=`, `?` or `+`; with a colon an empty value counts as unset. -/
  | test (op : Char) (colon : Bool)
  /-- Removes the shortest or longest match at the front or at the end. -/
  | trim (front longest : Bool)
  /-- The length of the value. -/
  | length
deriving DecidableEq, Repr, Inhabited

/-- A part of a word. -/
inductive Piece where
  | text (octets : Octets) (quoted : Bool)
  | parameter (name : Octets) (modifier : Modifier) (argument : List Piece) (quoted : Bool)
  | command (source : Octets) (quoted : Bool)
  | arithmetic (expression : List Piece) (quoted : Bool)
  /-- An expansion that cannot be made. -/
  | broken
deriving Repr, Inhabited

/-- A word: its parts in order. -/
abbrev Word := List Piece

/-- What a redirection does. -/
inductive Direction where
  | read
  | write
  | append
  | both
  /-- A copy of another descriptor, or none for a dash. -/
  | copy
  /-- The target is the text itself. -/
  | here
deriving DecidableEq, Repr, Inhabited

/-- A redirection of a descriptor. -/
structure Redirection where
  descriptor : Nat
  direction : Direction
  target : Word
deriving Repr, Inhabited

/-- A command. -/
inductive Command where
  | simple (line : Nat) (assignments : List (Octets × Word)) (words : List Word) (redirections : List Redirection)
  | pipeline (stages : List Command)
  | negated (command : Command)
  | both (first second : Command)
  | either (first second : Command)
  | sequence (first second : Command)
  | background (command : Command)
  | subshell (body : Command)
  | redirected (body : Command) (redirections : List Redirection)
  | branch (condition yes no : Command)
  /-- Repeats its body; it stops when the condition's success is as said. -/
  | loop (stopOn : Bool) (condition body : Command)
  | each (name : Octets) (words : Option (List Word)) (body : Command)
  | choice (subject : Word) (arms : List (List Word × Command))
  | function (name : Octets) (body : Command)
  | nothing
deriving Inhabited

end QueryGateway.Shell
