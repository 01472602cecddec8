import TemplateCheck.Text

/-!
How much a report and the log tell.
-/
namespace TemplateCheck

inductive Verbosity where
  | normal
  | verbose
  | veryVerbose
  | debug
  deriving DecidableEq, Repr

namespace Verbosity

def ofCount : Nat → Verbosity
  | 0 => normal
  | 1 => verbose
  | 2 => veryVerbose
  | _ => debug

def rank : Verbosity → Nat
  | normal => 0
  | verbose => 1
  | veryVerbose => 2
  | debug => 3

def listsRecords (v : Verbosity) : Bool := verbose.rank ≤ v.rank

def showsContent (v : Verbosity) : Bool := veryVerbose.rank ≤ v.rank

def name : Verbosity → Text
  | normal => "Normal"
  | verbose => "Verbose"
  | veryVerbose => "VeryVerbose"
  | debug => "Debug"

def logFilter : Verbosity → Text
  | normal => "warn"
  | verbose => "warn"
  | veryVerbose => "info"
  | debug => "debug"

end Verbosity
end TemplateCheck
