import TemplateCheck.World
import TemplateCheck.Text.Lossy

/-!
External programs: how their arguments are filled in, how they are run, and what they had to say.
-/
namespace TemplateCheck

/-- A program with arguments, in which a placeholder stands for the file at hand. -/
structure ToolCommand where
  program : Text
  args : List Text
  deriving DecidableEq, Repr

/-- The output of a tool as text. -/
structure ToolOutput where
  status : Status
  stdout : Text
  stderr : Text
  deriving DecidableEq, Repr

namespace ToolOutput

def ofExit (e : Exit) : ToolOutput :=
  ⟨e.status, Text.ofBytesLossy e.stdout, Text.ofBytesLossy e.stderr⟩

def isSuccess (o : ToolOutput) : Bool := o.status.isSuccess

def isParameter (c : Char) : Bool := c.isDigit || c == ';'

/-- The length of the colour code at the start of a text: an escape, a bracket, digits and semicolons,
and a letter. -/
def colourCodeLength : Text → Option Nat
  | '\x1b' :: '[' :: rest =>
    match rest.dropWhile isParameter with
    | c :: _ => if c.isAlpha then some ((rest.takeWhile isParameter).length + 3) else none
    | [] => none
  | _ => none

/-- Drops `skip` characters, then every colour code, leftmost first. -/
def stripFrom : Nat → Text → Text
  | _, [] => []
  | skip + 1, _ :: rest => stripFrom skip rest
  | 0, c :: rest =>
    match colourCodeLength (c :: rest) with
    | some length => stripFrom (length - 1) rest
    | none => c :: stripFrom 0 rest

def stripColours (t : Text) : Text := stripFrom 0 t

/-- Both streams in one text, errors first; a blank stream is left out where the other has text. -/
def streams (o : ToolOutput) : Text :=
  if Text.isBlank o.stderr then o.stdout
  else if Text.isBlank o.stdout then o.stderr
  else o.stderr ++ '\n' :: o.stdout

def diagnostics (o : ToolOutput) : Text := stripColours o.streams

end ToolOutput

namespace ToolCommand

open CheckM

def placeholder : Text := "\x7bfile\x7d"

/-- The arguments for a file: every placeholder is replaced in one pass. -/
def argsFor (c : ToolCommand) (file : Path) : List Text :=
  c.args.map (Text.replace placeholder file.display)

def run (programs : Programs) (c : ToolCommand) (file : Path) : Check ToolOutput := do
  let args := c.argsFor file
  note .debug .tool ("Running " ++ c.program ++ " " ++ Text.join " " args)
  match ← launch programs file c.program args with
  | .ok exit => return ToolOutput.ofExit exit
  | .error fault => fail (.tool c.program (.fault fault))

end ToolCommand
end TemplateCheck
