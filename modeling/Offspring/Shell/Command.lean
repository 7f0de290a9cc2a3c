import Offspring.Shell.Token

/-!
# Commands

What a script asks for, as a tree. Words are kept as they are written.
-/

namespace Offspring.Shell

/-- What a redirection does with a descriptor. -/
inductive RedirectionKind where
  | read
  | write
  | append
  | readWrite
  /-- It stands for what another descriptor stands for, or is closed. -/
  | duplicate
  deriving DecidableEq

/-- A redirection of one descriptor. -/
structure Redirect where
  fd : Nat
  kind : RedirectionKind
  target : Word
  deriving DecidableEq

/-- A command. -/
inductive Command where
  | nothing
  /-- Assignments and a program or builtin with its arguments. -/
  | simple (line : Nat) (words : List Word) (redirects : List Redirect)
  | pipeline (parts : List Command)
  | negation (body : Command)
  /-- The second is run if the first succeeds. -/
  | both (first second : Command)
  /-- The second is run if the first fails. -/
  | either (first second : Command)
  | sequence (first second : Command)
  | background (body : Command)
  | subshell (body : Command)
  | redirected (line : Nat) (body : Command) (redirects : List Redirect)
  | branch (test yes no : Command)
  /-- The body is run while the test succeeds, or until it does. -/
  | loop (isUntil : Bool) (test body : Command)
  /-- The body is run for each field of the words, or for each positional parameter. -/
  | each (line : Nat) (name : Word) (words : Option (List Word)) (body : Command)
  | choice (line : Nat) (subject : Word) (cases : List (List Word × Command))
  | definition (name : Word) (body : Command)

end Offspring.Shell
