import TemplateCheck.Error

/-!
Selecting files: everything below some roots that has an extension and is not excluded.

A root that is a link is followed, a link to a directory below a root is not. The tests are made on
the path as it was walked, the answer holds canonical paths, each once and in path order.
-/
namespace TemplateCheck

structure Selection where
  roots : List Path
  extension : Text
  excluded : List Glob := []

namespace Selection

/-- The paths at and below a root, spelled from the root on. The root `-` stands for the standard
input, which is no directory and holds no file. -/
def walked (d : Disk) (root : Path) : Except Fault (List Path) :=
  if root.same ⟨['-']⟩ then .ok []
  else match d.resolve root with
    | .error fault => .error fault
    | .ok place => .ok (root :: (d.below place).map fun (names, _) => root.joinAll names)

def admits (s : Selection) (d : Disk) (path : Path) : Bool :=
  d.isFile path && path.shownExtension == some s.extension &&
    !s.excluded.any fun glob => glob.isMatch path.display

/-- Inserts a path into a list that is strictly increasing. -/
def insertPath (p : Path) : List Path → List Path
  | [] => [p]
  | q :: rest =>
    match p.compare q with
    | .lt => p :: q :: rest
    | .eq => q :: rest
    | .gt => q :: insertPath p rest

def sorted (paths : List Path) : List Path := paths.foldl (fun done p => insertPath p done) []

def under (s : Selection) (d : Disk) (root : Path) : Except CheckError (List Path) :=
  match walked d root with
  | .error fault => .error (.walk root fault)
  | .ok paths => (paths.filter (s.admits d)).mapM fun path =>
    match d.canonicalize path with
    | .ok canonical => .ok canonical
    | .error fault => .error (.io "Failed to resolve path" path (.fault fault))

def files (s : Selection) (d : Disk) : Except CheckError (List Path) :=
  match s.roots.mapM (s.under d) with
  | .error e => .error e
  | .ok found => .ok (sorted found.flatten)

end Selection

/-- Reads exclude patterns; the first broken one is the error. -/
def Glob.parseAll (patterns : List Text) : Except CheckError (List Glob) :=
  patterns.mapM fun pattern =>
    match Glob.parse pattern with
    | .ok glob => .ok glob
    | .error e => .error (.glob e)

end TemplateCheck
