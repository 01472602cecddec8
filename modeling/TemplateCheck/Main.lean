import TemplateCheck.CommandLine
import TemplateCheck.Shell

/-!
The program: reads the surroundings into a world, runs the command line on it, and carries out what
has changed.
-/
namespace TemplateCheck.Main

def variableNames : List String :=
  ["NO_COLOR", "CLICOLOR", "CLICOLOR_FORCE", "RUST_LOG", "TPLCHECK_BOOTSTRAP"]

def readEnvironment : IO Environment := do
  let mut bindings := []
  for name in variableNames do
    if let some value ← IO.getEnv name then
      bindings := (name.toList, value.toList) :: bindings
  return ⟨bindings⟩

def placeOf (path : String) : Place :=
  ((Path.ofText path.toList).text.splitOn '/').filter fun segment => !Path.silent segment

def spelled (place : Place) : String := String.ofList (Path.ofNames place).display

/-- Everything below a directory. -/
partial def gather (place : Place) : IO (List (Place × Entry)) := do
  let directory ← IO.FS.realPath (spelled place)
  let mut entries := []
  for e in ← directory.readDir do
    let inner := place ++ [Text.spelling e.fileName.toList]
    match (← e.path.symlinkMetadata).type with
    | .dir => entries := (inner, .directory) :: (← gather inner) ++ entries
    | .file => entries := (inner, .file (← IO.FS.readBinFile e.path)) :: entries
    | .symlink =>
      let target ← IO.FS.realPath e.path
      entries := (inner, .link (.ofText target.toString.toList)) :: entries
    | .other => pure ()
  return entries

/-- The directories that a run may look at: the working directory, and what the arguments name. -/
def roots (workdir : Place) (args : List String) : IO (List Place) := do
  let mut found := [workdir]
  for arg in args do
    let real ← try IO.FS.realPath arg catch _ => pure arg
    if ← real.isDir then
      let place := placeOf real.toString
      if !found.any (·.isPrefixOf place) then found := place :: found
    else if ← real.pathExists then
      let place := (placeOf real.toString).dropLast
      if !found.any (·.isPrefixOf place) then found := place :: found
  return found

def readDisk (args : List String) : IO Disk := do
  let workdir := placeOf (← IO.FS.realPath (← IO.currentDir)).toString
  let mut disk := Disk.blank (Path.ofNames workdir)
  for root in ← roots workdir args do
    let way := (Disk.blank (Path.ofNames root)).entries
    disk := { disk with entries := disk.entries ++ way ++ (← gather root) }
  return disk

def writeBack (before after : Disk) : IO Unit := do
  let changed := after.entries.filter fun (place, entry) => match before.get? place, entry with
    | some (.file old), .file new => old.toList != new.toList
    | some _, _ => false
    | none, _ => true
  for (place, entry) in changed.mergeSort fun a b => a.1.length ≤ b.1.length do
    match entry with
    | .directory => IO.FS.createDirAll (spelled place)
    | .file body => IO.FS.writeBinFile (spelled place) body
    | .link _ => pure ()

def usage : String :=
  "Usage: tplcheck check <DIRS>... [-b FILE] [-c DIR] [-f terminal|json] [--color MODE] [--plain] [-v]\n" ++
  "       tplcheck init [PATH] [--force]\n"

def explain (e : ArgumentError) : IO Unit := do
  match e with
  | .help => IO.print usage
  | .version => IO.println "tplcheck 0.1.0"
  | _ => IO.eprint usage

end TemplateCheck.Main

open TemplateCheck TemplateCheck.Main in
def main (args : List String) : IO UInt32 := do
  let env ← readEnvironment
  let disk ← readDisk args
  let stdout ← IO.getStdout
  let (ended, world) := CommandLine.run Shell.programs .reliable (← stdout.isTty) env (args.map String.toList)
    { disk }
  writeBack disk world.disk
  stdout.write world.output.held
  stdout.flush
  match ended with
  | .refused e =>
    explain e
    return UInt32.ofNat e.exitCode
  | .finished status stderr =>
    IO.eprint (String.ofList stderr)
    return UInt32.ofNat status
