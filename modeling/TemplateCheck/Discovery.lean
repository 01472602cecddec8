import TemplateCheck.Selection
import TemplateCheck.World

/-!
Discovery: which of the given paths are directories, and which templates lie below them.
-/
namespace TemplateCheck

structure Discovery where
  /-- The canonical paths of the directories, each once, in the order of the arguments. -/
  directories : List Path
  /-- The arguments that are no directories, as they were given. -/
  skipped : List Path
  files : List Path
  deriving DecidableEq, Repr

namespace Discovery

open CheckM

/-- What becomes of one argument. -/
inductive Resolved where
  | directory (path : Path)
  | skipped (reason : Text)
  deriving DecidableEq, Repr

def resolveOne (d : Disk) (path : Path) : Resolved :=
  match d.canonicalize path with
  | .error fault => .skipped fault.message
  | .ok canonical =>
    if d.isDirectory canonical then .directory canonical else .skipped "not a directory"

/-- Sorts the arguments into directories and skipped ones, with a warning for each of the latter. -/
def resolve : List Path → Check (List Path × List Path)
  | dirs => go dirs [] []
where
  go : List Path → List Path → List Path → Check (List Path × List Path)
    | [], found, skipped => return (found, skipped)
    | dir :: rest, found, skipped => do
      match resolveOne (← readDisk) dir with
      | .directory path => go rest (if path ∈ found then found else found ++ [path]) skipped
      | .skipped reason =>
        note .warn .discovery ("Skipping " ++ dir.display ++ ": " ++ reason)
        go rest found (skipped ++ [dir])

/-- The files of a set of directories. Without directories the patterns are not even read. -/
def select (d : Disk) (directories : List Path) (extension : Text) (exclude : List Text) :
    Except CheckError (List Path) :=
  if directories.isEmpty then .ok []
  else
    match Glob.parseAll exclude with
    | .error e => .error e
    | .ok excluded => Selection.files ⟨directories, extension, excluded⟩ d

def summary (files directories : Nat) : Text :=
  "Discovered " ++ Text.decimal files ++ " template(s) in " ++ Text.decimal directories ++
    " director" ++ (if directories = 1 then ("y" : Text) else "ies")

def run (dirs : List Path) (extension : Text) (exclude : List Text) : Check Discovery :=
  within (.phase .discovery) do
    let (directories, skipped) ← resolve dirs
    let files ← ofExcept id (select (← readDisk) directories extension exclude)
    note .info .discovery (summary files.length directories.length)
    return ⟨directories, skipped, files⟩

end Discovery
end TemplateCheck
