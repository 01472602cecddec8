import TemplateCheck.Path

/-!
The disk as a value: which places hold a file, a directory or a symbolic link.

A place is the list of names from the root. Looking a path up walks its segments from the root or
from the working directory and follows links; every way in which that can go wrong is a `Fault`.
-/
namespace TemplateCheck

/-- Why an operation on the disk or on a program failed. -/
inductive Fault where
  | notFound
  | permissionDenied
  | alreadyExists
  | notADirectory
  | isADirectory
  | nameTooLong
  | tooManyLinks
  | notText
  | nulInPath
  | nulInArgument
  | noSpace
  deriving DecidableEq, Repr

namespace Fault

def message : Fault → Text
  | notFound => "No such file or directory (os error 2)"
  | permissionDenied => "Permission denied (os error 13)"
  | alreadyExists => "File exists (os error 17)"
  | notADirectory => "Not a directory (os error 20)"
  | isADirectory => "Is a directory (os error 21)"
  | nameTooLong => "File name too long (os error 36)"
  | tooManyLinks => "Too many levels of symbolic links (os error 40)"
  | notText => "stream did not contain valid UTF-8"
  | nulInPath => "file name contained an unexpected NUL byte"
  | nulInArgument => "nul byte found in provided data"
  | noSpace => "No space left on device (os error 28)"

end Fault

abbrev Place := List Text

inductive Entry where
  | file (body : ByteArray)
  | directory
  | link (target : Path)

def Entry.isDirectory : Entry → Bool
  | directory => true
  | _ => false

/-- What is behind the files: how writing some bytes to an empty file ends, and what the file holds
then. -/
structure Medium where
  take : Place → ByteArray → Except Fault Unit × ByteArray

def Medium.reliable : Medium := ⟨fun _ body => (.ok (), body)⟩

structure Disk where
  entries : List (Place × Entry)
  /-- Where relative paths start. -/
  workdir : Place
  workdir_names : ∀ name ∈ workdir, Path.isName name

namespace Disk

def get? (d : Disk) (place : Place) : Option Entry :=
  if place = [] then some .directory else d.entries.lookup place

def put (d : Disk) (place : Place) (entry : Entry) : Disk :=
  { d with entries := (place, entry) :: d.entries.filter (·.1 ≠ place) }

def erase (d : Disk) (place : Place) : Disk :=
  { d with entries := d.entries.filter (!place.isPrefixOf ·.1) }

/-- The entries strictly below a place, with their names from there on. -/
def below (d : Disk) (place : Place) : List (List Text × Entry) :=
  d.entries.filterMap fun (q, entry) =>
    if place.isPrefixOf q && place.length < q.length then some (q.drop place.length, entry) else none

def linkLimit : Nat := 40

def nameLimit : Nat := 255

def pathLimit : Nat := 4095

/-- Where a walk along segments stops: at its end, at a fault, or in front of a link. -/
inductive Descent where
  | arrived (place : Place)
  | failed (fault : Fault)
  | atLink (directory : Place) (target : Path) (rest : List Text)

def descend (d : Disk) : Place → List Text → Descent
  | here, [] => .arrived here
  | here, segment :: rest =>
    if Path.silent segment then d.descend here rest
    else if segment = Path.dotDot then d.descend here.dropLast rest
    else if nameLimit < segment.length then .failed .nameTooLong
    else match d.get? (here ++ [segment]) with
      | none => .failed .notFound
      | some .directory => d.descend (here ++ [segment]) rest
      | some (.file _) => if rest = [] then .arrived (here ++ [segment]) else .failed .notADirectory
      | some (.link target) => .atLink here target rest

/-- Where the segments of a path start: at the root, or at the directory that is given. -/
def startOf (directory : Place) (p : Path) : Place := if p.isAbsolute then [] else directory

/-- Walks segments and follows every link on the way, the last one included. -/
def follow (d : Disk) : Nat → Place → List Text → Except Fault Place
  | budget, here, segments =>
    match d.descend here segments, budget with
    | .arrived place, _ => .ok place
    | .failed fault, _ => .error fault
    | .atLink _ _ _, 0 => .error .tooManyLinks
    | .atLink directory target rest, budget + 1 =>
      d.follow budget (startOf directory target) (target.segments ++ rest)

/-- How many links a look-up may still follow when it is done. -/
def linksLeft (d : Disk) : Nat → Place → List Text → Nat
  | 0, _, _ => 0
  | budget + 1, here, segments =>
    match d.descend here segments with
    | .atLink directory target rest =>
      d.linksLeft budget (startOf directory target) (target.segments ++ rest)
    | _ => budget + 1

theorem linksLeft_le (d : Disk) (budget : Nat) (here : Place) (segments : List Text) :
    d.linksLeft budget here segments ≤ budget := by
  induction budget generalizing here segments with
  | zero => exact Nat.le_refl 0
  | succ budget ih =>
    unfold linksLeft
    split
    · exact Nat.le_succ_of_le (ih _ _)
    · exact Nat.le_refl _

def spellingFault (p : Path) : Option Fault :=
  if '\x00' ∈ p.text then some .nulInPath
  else if p.text.isEmpty then some .notFound
  else if pathLimit < p.text.length then some .nameTooLong
  else none

def resolve (d : Disk) (p : Path) : Except Fault Place :=
  match spellingFault p with
  | some fault => .error fault
  | none => d.follow linkLimit (startOf d.workdir p) p.segments

/-- The canonical spelling: absolute, without links, dots or doubled slashes. -/
def canonicalize (d : Disk) (p : Path) : Except Fault Path := (d.resolve p).map Path.ofNames

def stat (d : Disk) (p : Path) : Option Entry :=
  match d.resolve p with
  | .ok place => d.get? place
  | .error _ => none

def pathExists (d : Disk) (p : Path) : Bool := (d.stat p).isSome

def isFile (d : Disk) (p : Path) : Bool :=
  match d.stat p with
  | some (.file _) => true
  | _ => false

def isDirectory (d : Disk) (p : Path) : Bool :=
  match d.stat p with
  | some .directory => true
  | _ => false

def holdsDirectory (d : Disk) (place : Place) : Bool := (d.get? place).any Entry.isDirectory

def readBytes (d : Disk) (p : Path) : Except Fault ByteArray :=
  match d.resolve p with
  | .error fault => .error fault
  | .ok place =>
    match d.get? place with
    | some (.file body) => .ok body
    | some .directory => .error .isADirectory
    | _ => .error .notFound

def readText (d : Disk) (p : Path) : Except Fault Text :=
  match d.readBytes p with
  | .error fault => .error fault
  | .ok body => match Text.ofBytes? body with
    | some text => .ok text
    | none => .error .notText

/-- What the last segment of a path asks for: a name in a directory, or a directory that exists
anyway (the root, or one reached by a dot). -/
inductive Goal where
  | name (directory : Place) (name : Text) (slash : Bool)
  | directory

/-- Walks to the directory that holds the last segment of a path. -/
def approach (d : Disk) (budget : Nat) (start : Place) (p : Path) : Except Fault Goal :=
  match p.segments.reverse.dropWhile (· = []) with
  | [] => .ok .directory
  | last :: before =>
    match d.follow budget (startOf start p) before.reverse with
    | .error fault => .error fault
    | .ok place =>
      if !d.holdsDirectory place then .error .notADirectory
      else if last = Path.dot ∨ last = Path.dotDot then .ok .directory
      else if nameLimit < last.length then .error .nameTooLong
      else .ok (.name place last (p.text.getLast? == some '/'))

/-- Creates or overwrites a file, following links at the last segment. They count together with the
links on the way to it. -/
def writeFrom (d : Disk) (body : ByteArray) (budget : Nat) (start : Place) (p : Path) :
    Except Fault Disk :=
  match d.approach budget start p with
  | .error fault => .error fault
  | .ok .directory => .error .isADirectory
  | .ok (.name _ _ true) => .error .isADirectory
  | .ok (.name directory name false) =>
    match d.get? (directory ++ [name]) with
    | none => .ok (d.put (directory ++ [name]) (.file body))
    | some (.file _) => .ok (d.put (directory ++ [name]) (.file body))
    | some .directory => .error .isADirectory
    | some (.link target) =>
      if d.linksLeft budget (startOf start p) p.segments.dropLast = 0 then .error .tooManyLinks
      else d.writeFrom body (d.linksLeft budget (startOf start p) p.segments.dropLast - 1) directory target
termination_by budget
decreasing_by
  have hle := d.linksLeft_le budget (startOf start p) p.segments.dropLast
  omega

def write (d : Disk) (p : Path) (body : ByteArray) : Except Fault Disk :=
  match spellingFault p with
  | some fault => .error fault
  | none => d.writeFrom body linkLimit d.workdir p

/-- Opens a file, which creates or empties it, and then writes to it. What the medium has taken stays,
whichever way the writing ends. -/
def store (medium : Medium) (d : Disk) (p : Path) (body : ByteArray) : Except Fault Unit × Disk :=
  match d.write p .empty with
  | .error fault => (.error fault, d)
  | .ok opened =>
    match opened.resolve p with
    | .error fault => (.error fault, opened)
    | .ok place =>
      let (result, kept) := medium.take place body
      (result, opened.put place (.file kept))

/-- Creates one directory; whatever stands there already is in the way. -/
def makeDirectory (d : Disk) (p : Path) : Except Fault Disk :=
  match spellingFault p with
  | some fault => .error fault
  | none =>
    match d.approach linkLimit d.workdir p with
    | .error fault => .error fault
    | .ok .directory => .error .alreadyExists
    | .ok (.name directory name _) =>
      match d.get? (directory ++ [name]) with
      | some _ => .error .alreadyExists
      | none => .ok (d.put (directory ++ [name]) .directory)

/-- Creates the first path of a lineage, after its missing ancestors. What was created before a
fault stays. -/
def makeLineage (d : Disk) : List Path → Except Fault Unit × Disk
  | [] => (.error .notFound, d)
  | p :: ancestors =>
    if p.text.isEmpty then (.ok (), d)
    else match d.makeDirectory p with
      | .ok made => (.ok (), made)
      | .error .notFound =>
        match d.makeLineage ancestors with
        | (.error fault, d') => (.error fault, d')
        | (.ok (), d') =>
          match d'.makeDirectory p with
          | .ok made => (.ok (), made)
          | .error fault => (if d'.isDirectory p then .ok () else .error fault, d')
      | .error fault => (if d.isDirectory p then .ok () else .error fault, d)

def makeDirectories (d : Disk) (p : Path) : Except Fault Unit × Disk := d.makeLineage p.lineage

/-- The place of an entry itself, without following a link at the end. -/
def entryPlace (d : Disk) (p : Path) : Except Fault Place :=
  match d.approach linkLimit d.workdir p with
  | .error fault => .error fault
  | .ok (.name directory name _) => .ok (directory ++ [name])
  | .ok .directory => d.resolve p

def makeLink (d : Disk) (p target : Path) : Except Fault Disk :=
  match d.entryPlace p with
  | .error fault => .error fault
  | .ok place => if (d.get? place).isSome then .error .alreadyExists else .ok (d.put place (.link target))

def remove (d : Disk) (p : Path) : Except Fault Disk := (d.entryPlace p).map d.erase

/-- A disk with nothing but the directories on the way to a working directory. -/
def blank (workdir : Path) : Disk :=
  let place := workdir.segments.filter Path.isName
  ⟨(List.range place.length).map fun n => (place.take (n + 1), .directory), place,
    fun _ h => (List.mem_filter.1 h).2⟩

end Disk
end TemplateCheck
