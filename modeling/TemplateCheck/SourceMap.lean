import TemplateCheck.Disk

/-!
From compiled files back to the templates that they were compiled from.

Keys are compared by their components, and a later entry for the same key replaces an earlier one.
-/
namespace TemplateCheck

structure SourceMap where
  /-- Compiled file and source; no two keys have the same components. -/
  entries : List (Path × Path) := []
  deriving DecidableEq, Repr

namespace SourceMap

def insert (m : SourceMap) (compiled source : Path) : SourceMap :=
  ⟨(compiled, source) :: m.entries.filter fun entry => !entry.1.same compiled⟩

def get? (m : SourceMap) (compiled : Path) : Option Path :=
  (m.entries.find? fun entry => entry.1.same compiled).map (·.2)

/-- The source of a compiled file: by its canonical path where it has one, otherwise as spelled. -/
def resolve (m : SourceMap) (d : Disk) (compiled : Path) : Option Path :=
  match d.canonicalize compiled with
  | .ok canonical => m.get? canonical
  | .error _ => m.get? compiled

def size (m : SourceMap) : Nat := m.entries.length

def isEmpty (m : SourceMap) : Bool := m.entries.isEmpty

end SourceMap
end TemplateCheck
