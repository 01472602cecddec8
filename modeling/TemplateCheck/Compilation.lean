import TemplateCheck.Artifact
import TemplateCheck.Capability
import TemplateCheck.Report
import TemplateCheck.SourceMap

/-!
Compiling templates: each template either leaves an artifact or a record.
-/
namespace TemplateCheck

structure Compilation where
  sourceMap : SourceMap := {}
  report : Report := {}
  /-- The canonical paths of the artifacts that were written, in the order of the templates. -/
  compiled : List Path := []
  deriving DecidableEq, Repr

namespace Compilation

open CheckM

def addArtifact (c : Compilation) (artifact source : Path) : Compilation :=
  { c with sourceMap := c.sourceMap.insert artifact source, compiled := c.compiled ++ [artifact] }

def addRecord (c : Compilation) (record : Record) : Compilation :=
  { c with report := c.report.push record }

def recordOf (error : CompileError) (content : Text) : Record :=
  Record.ofCompile error.file error.message (max error.line 1) content

def makeRoom (target : Path) : Check Unit :=
  match target.parent with
  | some directory => Check.ensureDirectory directory
  | none => return ()

/-- All that comes before the compiler's turn; the answer is the path of the artifact. -/
def prepare (root : Path) (extension : Text) (source : Path) : Check Path := do
  let target ← Artifact.locate root source extension
  makeRoom target
  note .debug .compilation ("Compiling " ++ source.display ++ " -> " ++ target.display)
  record (.compile source)
  return target

/-- All that comes after it: the artifact is written, or the error is recorded. -/
def settle (done : Compilation) (source target : Path) :
    Except CompileError Text → Check Compilation
  | .ok code => do
    Check.writeText target code
    let artifact ← Check.canonicalize target
    advance
    return done.addArtifact artifact source
  | .error error => do
    note .debug .compilation ("Compile error in " ++ source.display ++ ": " ++ error.display)
    let content ← Check.readText error.file
    advance
    return done.addRecord (recordOf error content)

def compileOne (root : Path) (compiler : Compiler) (extension : Text) (done : Compilation)
    (source : Path) : Check Compilation :=
  within (.file source) do
    let target ← prepare root extension source
    settle done source target (← compiler.compile source)

def compileAll (root : Path) (compiler : Compiler) (extension : Text) :
    Compilation → List Path → Check Compilation
  | done, [] => return done
  | done, source :: rest => do
    let done ← compileOne root compiler extension done source
    compileAll root compiler extension done rest

def run (root : Path) (sources : List Path) (compiler : Compiler) (extension : Text) :
    Check Compilation :=
  within (.phase .compile) do
    setProgress 0 (UInt64.ofNat sources.length)
    Check.ensureDirectory root
    compileAll root compiler extension {} sources

end Compilation
end TemplateCheck
