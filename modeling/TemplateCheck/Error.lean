import TemplateCheck.Disk
import TemplateCheck.Glob

/-!
Errors that end a check.

A template that does not compile and a finding of the linter are results of a check and never errors
in this sense. An error here means that the surroundings are unusable: a broken bootstrap file, a
missing program, a disk that refuses.
-/
namespace TemplateCheck

/-- Why an action failed: a fault of the system, or a reason in words. -/
inductive Cause where
  | fault (fault : Fault)
  | other (text : Text)
  deriving DecidableEq, Repr

def Cause.message : Cause → Text
  | fault f => f.message
  | other text => text

inductive CheckError where
  | io (message : Text) (path : Path) (cause : Cause)
  | bootstrap (path : Path) (message : Text)
  | tool (program : Text) (cause : Cause)
  | glob (error : Glob.Error)
  | walk (root : Path) (fault : Fault)
  /-- A report that cannot be put into JSON. -/
  | json (message : Text)
  | output (cause : Cause)
  deriving DecidableEq, Repr

namespace CheckError

def message : CheckError → Text
  | io message path _ => "I/O error: " ++ message ++ " (" ++ path.display ++ ")"
  | bootstrap path message => "Bootstrap error in " ++ path.display ++ ": " ++ message
  | tool program _ => "Failed to run `" ++ program ++ "`"
  | glob error => error.message
  | walk root fault =>
    root.display ++ ": IO error for operation on " ++ root.display ++ ": " ++ fault.message
  | json message => message
  | output _ => "Failed to write report"

def causes : CheckError → List Text
  | io _ _ cause => [cause.message]
  | tool _ cause => [cause.message]
  | output cause => [cause.message]
  | bootstrap _ _ => []
  | glob _ => []
  | walk _ _ => []
  | json _ => []

def path? : CheckError → Option Path
  | io _ path _ => some path
  | bootstrap path _ => some path
  | _ => none

end CheckError

/-- A template that does not compile: what is wrong with it, and where. -/
structure CompileError where
  message : Text
  file : Path
  line : Nat
  deriving DecidableEq, Repr

def CompileError.display (e : CompileError) : Text :=
  e.message ++ " (" ++ e.file.display ++ ":" ++ Text.decimal e.line ++ ")"

/-- One thing that the linter has found in a compiled file. -/
structure Finding where
  file : Path
  line : Nat
  error : Text
  deriving DecidableEq, Repr

end TemplateCheck
