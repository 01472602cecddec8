import TemplateCheck.Command.Check

/-!
The `init` command: writes a bootstrap file to start from.
-/
namespace TemplateCheck.Command

open CheckM

def starterLines : List String :=
  ["# tplcheck bootstrap",
   "#",
   "# Describes how to compile templates and how to syntax-check the result.",
   "# \"\x7bfile\x7d\" in argument lists is replaced by the path being processed.",
   "",
   "[compiler]",
   "program = \"latte-compile\"",
   "args = [\"\x7bfile\x7d\"]",
   "template_extension = \"latte\"",
   "target_extension = \"php\"",
   "# Named groups: message and line are required, file is optional and only",
   "# used when it names an existing file",
   "error_pattern = '(?P<message>.+) in (?P<file>.+?) on line (?P<line>\\d+)'",
   "",
   "[linter]",
   "program = \"php\"",
   "args = [\"-l\", \"-d\", \"display_errors=1\", \"\x7bfile\x7d\"]",
   "# Findings are always reported against the file being checked",
   "error_pattern = '(?:Parse|Fatal) error:\\s*(?P<message>.+) in .+ on line (?P<line>\\d+)'",
   "",
   "[discovery]",
   "exclude = [",
   "    \"**/vendor/**\",",
   "    \"**/node_modules/**\",",
   "]"]

def starter : Text := starterLines.flatMap fun line => line.toList ++ ['\n']

/-- Prints a line. An output that refuses it is a crash and no failure. -/
def print {ε : Type} (line : Text) : CheckM ε Unit := do
  let (result, output) := (← get).output.deliver [line ++ ['\n']]
  modify fun w => { w with output }
  match result with
  | .ok () => return ()
  | .error cause => crash ("failed printing to stdout: " ++ cause.message)

/-- Writes the starter to a path. What is there already is overwritten only by force. -/
def init (medium : Medium) (path : Path) (force : Bool) : CheckM Failure Unit := do
  if (← readDisk).pathExists path && !force then fail (.alreadyThere path)
  mapError .plain (Check.storeText medium path starter)
  print ("Created " ++ path.display ++ " bootstrap file")

end TemplateCheck.Command
