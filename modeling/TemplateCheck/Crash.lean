import TemplateCheck.Context

/-!
The report of a crash: what was thrown, and what the check was busy with at that moment.
-/
namespace TemplateCheck

structure Crash where
  /-- The text that was thrown; none when something else was thrown. -/
  payload : Option Text
  context : Context
  progress : Progress
  deriving DecidableEq, Repr

namespace Crash

def version : Text := "0.1.0"

def platform : Text := "linux"

def row (label value : Text) : Text := label ++ value ++ ['\n']

/-- The rows about the context. Progress shows only once there is something to do. -/
def contextRows (c : Context) (p : Progress) : List Text :=
  (c.phase.map fun phase => row "Phase:    " phase.name).toList ++
  (c.file.map fun file => row "File:     " file.display).toList ++
  (if 0 < p.total then
    [row "Progress: " (Text.decimal p.processed.toNat ++ "/" ++ Text.decimal p.total.toNat ++ " files")]
  else [])

def rows (c : Crash) : List Text :=
  [row "\n=== TPLCHECK CRASH REPORT ===" [], row "Version:  " version, row "Platform: " platform,
    row "Panic:    " (c.payload.getD "unknown panic payload")] ++
  contextRows c.context c.progress ++
  [row "Set RUST_BACKTRACE=1 for a backtrace." [], row [] []]

def report (c : Crash) : Text := c.rows.flatten

end Crash
end TemplateCheck
