import TemplateCheck.Path

/-!
Records of what is wrong, collected into a report.
-/
namespace TemplateCheck

inductive Kind where
  | compile
  | lint
  deriving DecidableEq, Repr

def Kind.name : Kind → Text
  | compile => "compile"
  | lint => "lint"

structure Record where
  kind : Kind
  /-- The file that the error was seen in. -/
  file : Path
  error : Text
  /-- The template behind that file, where it is known. -/
  source : Option Path
  /-- The text of the file, for excerpts. -/
  content : Text
  line : Nat
  deriving DecidableEq, Repr

namespace Record

def ofCompile (file : Path) (error : Text) (line : Nat) (content : Text) : Record :=
  ⟨.compile, file, error, some file, content, line⟩

def ofLint (file : Path) (error : Text) (line : Nat) (source : Option Path) (content : Text) :
    Record :=
  ⟨.lint, file, error, source, content, line⟩

def hasDistinctSource (r : Record) : Bool :=
  match r.source with
  | none => true
  | some source => !source.same r.file

end Record

structure Report where
  records : List Record := []
  deriving DecidableEq, Repr

namespace Report

def push (r : Report) (record : Record) : Report := ⟨r.records ++ [record]⟩

def append (r s : Report) : Report := ⟨r.records ++ s.records⟩

def count (r : Report) : Nat := r.records.length

def isEmpty (r : Report) : Bool := r.records.isEmpty

def countOf (r : Report) (kind : Kind) : Nat := r.records.countP (·.kind = kind)

end Report

def maxExitCode : Nat := 255

/-- The exit status for a number of records: their number, as far as a status can tell. -/
def exitCode (count : Nat) : Nat := min count maxExitCode

end TemplateCheck
