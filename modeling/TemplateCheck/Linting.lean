import TemplateCheck.Capability
import TemplateCheck.Report
import TemplateCheck.SourceMap

/-!
Linting what was compiled: each finding becomes a record that names the template behind the file.
-/
namespace TemplateCheck.Linting

open CheckM

def recordOf (finding : Finding) (source : Option Path) (content : Text) : Record :=
  Record.ofLint finding.file finding.error (max finding.line 1) source content

def recordFinding (sourceMap : SourceMap) (finding : Finding) : Check Record :=
  within (.file finding.file) do
    let source := sourceMap.resolve (← readDisk) finding.file
    if source.isNone then
      note .debug .linting (finding.file.display ++ " was not compiled by this run")
    let content ← Check.readText finding.file
    return recordOf finding source content

def recordAll (sourceMap : SourceMap) : List Finding → Check (List Record)
  | [] => return []
  | finding :: rest => do
    let record ← recordFinding sourceMap finding
    let records ← recordAll sourceMap rest
    return record :: records

def run (root : Path) (linter : Linter) (sourceMap : SourceMap) : Check Report :=
  within (.phase .lint) do
    record (.files root)
    let files ← linter.files root
    note .info .linting ("Linting " ++ Text.decimal files.length ++ " compiled file(s)")
    record (.lint files)
    let findings ← linter.lint files
    return ⟨← recordAll sourceMap findings⟩

end TemplateCheck.Linting
