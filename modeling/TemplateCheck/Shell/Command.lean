import TemplateCheck.Text

/-!
Shell scripts as data: words that are still to be expanded, and commands built from them.

A shell works on bytes. Its texts hold one character for each byte, so that a byte can be written as
the character of the same number.
-/
namespace TemplateCheck.Shell

inductive Piece where
  | literal (text : Text) (quoted : Bool)
  | variable (name : Text) (quoted : Bool)
  | arithmetic (formula : Text) (quoted : Bool)
  deriving DecidableEq, Repr

abbrev Word := List Piece

inductive Redirect where
  /-- Reads from a file. -/
  | input (file : Word)
  /-- Sends a stream to a file. -/
  | output (stream : Nat) (file : Word)
  /-- Sends a stream to where another one goes. -/
  | copy (stream target : Nat)
  deriving DecidableEq, Repr

inductive Command where
  | simple (assignments : List (Text × Word)) (words : List Word) (redirects : List Redirect)
  | sequence (first second : Command)
  | and (first second : Command)
  | or (first second : Command)
  | not (command : Command)
  /-- Repeats the body while the test succeeds, or until it does. -/
  | loop (whileTrue : Bool) (test body : Command)
  /-- A loop that is under way; it ends with the status of its last round. -/
  | again (whileTrue : Bool) (test body : Command)
  | forEach (name : Text) (items : List Word) (body : Command)
  | choose (test yes no : Command)
  | case (subject : Word) (branches : List (List Word × Command))
  | redirected (command : Command) (redirects : List Redirect)
  deriving Repr

def Command.nothing : Command := .simple [] [] []

end TemplateCheck.Shell
