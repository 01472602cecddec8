import TemplateCheck.Text.Lossy

/-!
Paths: a spelling, and the components that it stands for.

A path is made of bytes, and not all of them need be text. Its spelling has one character for each
byte, so a name in UTF-8 is spelled by the bytes of its characters. Two spellings with the same
components name the same path (`a//b/.` and `a/b`), so comparisons go through `components`, while
printing goes by the spelling.
-/
namespace TemplateCheck

structure Path where
  /-- One character for each byte. -/
  text : Text
  deriving DecidableEq, Repr

instance : Coe String Path := ⟨fun s => ⟨s.toList⟩⟩

inductive Component where
  | root
  | current
  | parent
  | normal (name : Text)
  deriving DecidableEq, Repr

namespace Component

def rank : Component → Nat
  | root => 0
  | current => 1
  | parent => 2
  | normal _ => 3

def compare : Component → Component → Ordering
  | normal a, normal b => Text.compare a b
  | a, b => Ord.compare a.rank b.rank

def normal? : Component → Option Text
  | normal name => some name
  | _ => none

end Component

namespace Path

def ofText (t : Text) : Path := ⟨Text.spelling t⟩

/-- The path as it is shown. What is not text in it is replaced. -/
def display (p : Path) : Text := Text.ofBytesLossy (Text.octetBytes p.text)

/-- Whether a text names the path: the one that is shown, then. -/
def isText (p : Path) : Bool := Text.spelling p.display == p.text

def dot : Text := ['.']

def dotDot : Text := ['.', '.']

/-- Segments that add nothing to a path: the empty one between two slashes, and a dot. -/
def silent (segment : Text) : Bool := segment == [] || segment == dot

/-- What names an entry of a directory: a segment that is neither silent nor a double dot. -/
def isName (segment : Text) : Bool := !silent segment && segment != dotDot && !segment.elem '/'

def segments (p : Path) : List Text := p.text.splitOn '/'

def isAbsolute (p : Path) : Bool := p.text.head? == some '/'

def componentOf (segment : Text) : Option Component :=
  if silent segment then none
  else if segment == dotDot then some .parent
  else some (.normal segment)

/-- A leading dot of a relative path is kept, every other silent segment is dropped. -/
def components (p : Path) : List Component :=
  let body := p.segments.filterMap componentOf
  if p.isAbsolute then .root :: body
  else if p.segments.head? == some dot then .current :: body
  else body

def same (p q : Path) : Bool := p.components == q.components

def compareComponents : List Component → List Component → Ordering
  | [], [] => .eq
  | [], _ :: _ => .lt
  | _ :: _, [] => .gt
  | a :: as, b :: bs => (a.compare b).then (compareComponents as bs)

def compare (p q : Path) : Ordering := compareComponents p.components q.components

def ofNames (names : List Text) : Path := ⟨'/' :: Text.join ['/'] names⟩

def join (p : Path) (name : Text) : Path :=
  if name.head? == some '/' then ⟨name⟩
  else if p.text.isEmpty || p.text.getLast? == some '/' then ⟨p.text ++ name⟩
  else ⟨p.text ++ '/' :: name⟩

def joinAll (p : Path) (names : List Text) : Path := names.foldl join p

/-- The segments without the silent ones at the end, last one first. -/
def spokenSegments (p : Path) : List Text := p.segments.reverse.dropWhile silent

def fileName (p : Path) : Option Text :=
  match p.spokenSegments with
  | [] => none
  | last :: _ => if last == dotDot then none else some last

/-- Splits a file name at its last dot; a dot at the very start separates nothing. -/
def splitName (name : Text) : Text × Option Text :=
  let after := name.reverse.takeWhile (· != '.')
  let before := (name.reverse.dropWhile (· != '.')).drop 1
  if before.isEmpty then (name, none) else (before.reverse, some after.reverse)

def stem (name : Text) : Text := (splitName name).1

def extension (p : Path) : Option Text := p.fileName.bind fun name => (splitName name).2

/-- The extension as it is shown, which is how it is compared. -/
def shownExtension (p : Path) : Option Text := p.extension.map fun bytes => display ⟨bytes⟩

def withSuffix (stem extension : Text) : Text :=
  if extension.isEmpty then stem else stem ++ '.' :: Text.spelling extension

/-- Swaps the extension of the file name; a path without a file name stays as it is. -/
def withExtension (p : Path) (extension : Text) : Path :=
  match p.spokenSegments with
  | [] => p
  | last :: before =>
    if last == dotDot then p
    else ⟨Text.join ['/'] (before.reverse ++ [withSuffix (stem last) extension])⟩

def parent (p : Path) : Option Path :=
  match p.spokenSegments with
  | [] =>
    if p.isAbsolute || p.text.isEmpty then none else some ⟨[]⟩
  | _ :: before =>
    match before.dropWhile silent with
    | [] =>
      if p.isAbsolute then some ⟨['/']⟩
      else if before.getLast? == some dot then some ⟨dot⟩
      else some ⟨[]⟩
    | kept => some ⟨Text.join ['/'] kept.reverse⟩

/-- The path and its ancestors, nearest first. Each parent is spelled with fewer characters, so the
length of the spelling bounds their number. -/
def lineage (p : Path) : List Path :=
  go (p.text.length + 1) p
where
  go : Nat → Path → List Path
    | 0, _ => []
    | n + 1, q => q :: (match q.parent with
      | none => []
      | some up => go n up)

end Path
end TemplateCheck
