import TemplateCheck.Capability
import TemplateCheck.Selection

/-!
Capabilities that follow a script: rules by file name instead of programs.
-/
namespace TemplateCheck.Scripted

open CheckM

def ruleFor? {α : Type} (rules : List (Text × α)) (file : Path) : Option α :=
  file.fileName.bind fun name => rules.lookup (Path.display ⟨name⟩)

inductive Rule where
  | code (text : Text)
  | crash (payload : Text)
  | fatal (program reason : Text)
  | mistake (message : Text) (line : Nat) (file : Option Path)
  deriving DecidableEq, Repr

def obey (rule : Rule) (path : Path) : Check (Except CompileError Text) :=
  match rule with
  | .code text => return .ok text
  | .crash payload => crash payload
  | .fatal program reason => fail (.tool program (.other reason))
  | .mistake message line file => return .error ⟨message, file.getD path, line⟩

def compiler (rules : List (Text × Rule)) : Compiler where
  compile path :=
    match ruleFor? rules path with
    | some rule => obey rule path
    | none => return .ok (← Check.readText path)

structure LintScript where
  /-- The files to lint; otherwise those with the extension below. -/
  files : Option (List Path) := none
  extension : Text := []
  /-- What is found in the files of a name. -/
  rules : List (Text × List (Nat × Text)) := []
  /-- What is found besides. -/
  extra : List Finding := []
  fatal : Option (Text × Text) := none
  deriving DecidableEq, Repr

def LintScript.findingsIn (s : LintScript) (file : Path) : List Finding :=
  ((ruleFor? s.rules file).getD []).map fun (line, error) => ⟨file, line, error⟩

def linter (s : LintScript) : Linter where
  files root := do
    match s.files with
    | some files => return files
    | none => ofExcept id (Selection.files ⟨[root], s.extension, []⟩ (← readDisk))
  lint files :=
    match s.fatal with
    | some (program, reason) => fail (.tool program (.other reason))
    | none => return files.flatMap s.findingsIn ++ s.extra

end TemplateCheck.Scripted
