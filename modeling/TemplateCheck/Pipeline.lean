import TemplateCheck.Compilation
import TemplateCheck.Discovery
import TemplateCheck.Linting

/-!
The whole check: discover, compile, lint. Records of the compiler come first, in the order of the
templates, then those of the linter, in its own order.
-/
namespace TemplateCheck.Pipeline

open CheckM

structure Options where
  templateExtension : Text
  targetExtension : Text
  exclude : List Text
  deriving DecidableEq, Repr

def run (dirs : List Path) (root : Path) (compiler : Compiler) (linter : Linter)
    (options : Options) : Check Report := do
  let discovery ← Discovery.run dirs options.templateExtension options.exclude
  if !discovery.skipped.isEmpty then
    note .warn .pipeline ("Skipped " ++ Text.decimal discovery.skipped.length ++ " of " ++
      Text.decimal dirs.length ++ " input path(s)")
  Check.ensureDirectory root
  let root ← Check.canonicalize root
  let outcome ← Compilation.run root discovery.files compiler options.targetExtension
  note .info .pipeline ("Compiled " ++ Text.decimal outcome.compiled.length ++ " of " ++
    Text.decimal discovery.files.length ++ " template(s) into " ++ root.display)
  let linted ← Linting.run root linter outcome.sourceMap
  return outcome.report.append linted

end TemplateCheck.Pipeline
