import TemplateCheck.Path

/-!
What a check is busy with: its phase, its file and how far it has come.

Entering a phase or a file gives a guard that remembers the whole context from before. Releasing the
guard puts that context back, whatever has happened in between, so guards that are released newest
first act as a stack.
-/
namespace TemplateCheck

inductive Phase where
  | discovery
  | compile
  | lint
  | report
  deriving DecidableEq, Repr

def Phase.name : Phase → Text
  | discovery => "discovery"
  | compile => "compile"
  | lint => "lint"
  | report => "report"

structure Context where
  phase : Option Phase := none
  file : Option Path := none
  deriving DecidableEq, Repr

/-- One change of the context. -/
inductive Setting where
  | phase (phase : Phase)
  | file (path : Path)
  deriving DecidableEq, Repr

/-- The context to put back when the guard is released. -/
structure Guard where
  previous : Context
  deriving DecidableEq, Repr

namespace Context

def apply (c : Context) : Setting → Context
  | .phase phase => { c with phase := some phase }
  | .file path => { c with file := some path }

def enter (c : Context) (setting : Setting) : Guard × Context := (⟨c⟩, c.apply setting)

def release (_ : Context) (guard : Guard) : Context := guard.previous

end Context

/-- How many files are done, and of how many. The counters are machine words. -/
structure Progress where
  processed : UInt64 := 0
  total : UInt64 := 0
  deriving DecidableEq, Repr

def Progress.advance (p : Progress) : Progress := { p with processed := p.processed + 1 }

end TemplateCheck
