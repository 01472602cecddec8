import TemplateCheck.Backend
import TemplateCheck.Bootstrap
import TemplateCheck.Pipeline
import TemplateCheck.Rendering

/-!
The `check` command: from a bootstrap to a written report.
-/
namespace TemplateCheck.Command

open CheckM

/-- Why a command failed. -/
inductive Failure where
  | noDirectories
  | noCompiler (error : CheckError)
  | aborted (error : CheckError)
  | alreadyThere (path : Path)
  | plain (error : CheckError)
  deriving DecidableEq, Repr

/-- What is said about a failure: the headline, then the causes. -/
def Failure.texts : Failure → List Text
  | noDirectories => ["At least one directory is required".toList]
  | noCompiler e => "Failed to obtain a template compiler".toList :: e.message :: e.causes
  | aborted e => "Check aborted".toList :: e.message :: e.causes
  | alreadyThere path => [path.display ++ " already exists. Use --force to overwrite."]
  | plain e => e.message :: e.causes

structure CheckRequest where
  dirs : List Path
  bootstrap : Option Path
  compiledDir : Path
  format : Format
  verbosity : Verbosity
  formatter : Formatter
  deriving DecidableEq, Repr

def compilerOf (programs : Programs) (b : Bootstrap) : Compiler :=
  Backend.compiler programs ⟨b.config.compiler.program, b.config.compiler.args⟩ b.compilerPattern

def linterOf (programs : Programs) (b : Bootstrap) : Linter :=
  Backend.linter programs ⟨b.config.linter.program, b.config.linter.args⟩ b.linterPattern
    b.targetExtension

def optionsOf (b : Bootstrap) : Pipeline.Options :=
  ⟨b.templateExtension, b.targetExtension, b.exclude⟩

def deliver (pieces : List Text) : Check Unit := do
  let (result, output) := (← get).output.deliver pieces
  modify fun w => { w with output }
  match result with
  | .ok () => return ()
  | .error cause => fail (.output cause)

/-- Runs a check and writes its report; the answer is the number of records. -/
def check (programs : Programs) (r : CheckRequest) : CheckM Failure Nat := do
  if r.dirs.isEmpty then fail .noDirectories
  let bootstrap ← mapError .noCompiler (Bootstrap.resolve r.bootstrap)
  let report ← mapError .aborted
    (Pipeline.run r.dirs r.compiledDir (compilerOf programs bootstrap) (linterOf programs bootstrap)
      (optionsOf bootstrap))
  note .info .check (Text.decimal (report.countOf .compile) ++ " compile error(s), " ++
    Text.decimal (report.countOf .lint) ++ " lint error(s)")
  within (.phase .report) do
    let pieces ← ofExcept .plain (Rendering.pieces r.format r.formatter r.verbosity report)
    mapError .plain (deliver pieces)
    return report.count

end TemplateCheck.Command
