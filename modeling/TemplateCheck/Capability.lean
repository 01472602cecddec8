import TemplateCheck.World

/-!
What a check needs from outside: something that compiles a template, and something that lints files.
-/
namespace TemplateCheck

/-- Gives the code of a template, or says what is wrong with the template. -/
structure Compiler where
  compile : Path → Check (Except CompileError Text)

structure Linter where
  /-- The files below a root that are to be linted. -/
  files : Path → Check (List Path)
  lint : List Path → Check (List Finding)

end TemplateCheck
