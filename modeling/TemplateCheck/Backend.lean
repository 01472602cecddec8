import TemplateCheck.Capability
import TemplateCheck.FailurePattern
import TemplateCheck.Selection
import TemplateCheck.Tool

/-!
Capabilities that run programs. Both tell a failure from the exit status and find its place in the
output by a pattern; they differ in the file that they blame.
-/
namespace TemplateCheck.Backend

open CheckM

/-- The error of a template from a failed run. The file to blame is the one that was reported, if it is
there, and otherwise the template. -/
def errorOf (command : ToolCommand) (pattern : FailurePattern) (disk : Disk) (path : Path)
    (output : ToolOutput) : CompileError :=
  let diagnostics := output.diagnostics
  match pattern.find diagnostics with
  | some found =>
    ⟨found.message, (found.file.filter disk.isFile).getD path, max (found.line.getD 1) 1⟩
  | none =>
    let message := match Text.trim diagnostics with
      | [] => command.program ++ " exited with " ++ output.status.message
      | said => said
    ⟨message, path, 1⟩

def compiler (programs : Programs) (command : ToolCommand) (pattern : FailurePattern) : Compiler where
  compile path := do
    let output ← command.run programs path
    if output.isSuccess then return .ok output.stdout
    return .error (errorOf command pattern (← readDisk) path output)

/-- The finding from a failed run. It names the file that was linted, whatever was reported. -/
def findingOf (command : ToolCommand) (pattern : FailurePattern) (file : Path)
    (output : ToolOutput) : Finding :=
  let diagnostics := output.diagnostics
  match pattern.find diagnostics with
  | some found => ⟨file, max (found.line.getD 1) 1, found.message⟩
  | none =>
    let message := match Text.trim diagnostics with
      | [] => command.program ++ " exited with " ++ output.status.message
      | said => said
    ⟨file, 1, message⟩

def lintOne (programs : Programs) (command : ToolCommand) (pattern : FailurePattern) (file : Path) :
    Check (Option Finding) := do
  let output ← command.run programs file
  if output.isSuccess then return none
  return some (findingOf command pattern file output)

def lintAll (programs : Programs) (command : ToolCommand) (pattern : FailurePattern) :
    List Path → Check (List Finding)
  | [] => return []
  | file :: rest => do
    match ← lintOne programs command pattern file with
    | none => lintAll programs command pattern rest
    | some finding =>
      note .debug .linterCommand ("Lint error in " ++ file.display ++ ": " ++ finding.error)
      let findings ← lintAll programs command pattern rest
      return finding :: findings

def linter (programs : Programs) (command : ToolCommand) (pattern : FailurePattern)
    (extension : Text) : Linter where
  files root := do ofExcept id (Selection.files ⟨[root], extension, []⟩ (← readDisk))
  lint files := lintAll programs command pattern files

end TemplateCheck.Backend
