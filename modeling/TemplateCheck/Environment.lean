import TemplateCheck.Text

/-!
Environment bindings by name.
-/
namespace TemplateCheck

structure Environment where
  bindings : List (Text × Text) := []
  deriving DecidableEq, Repr

def Environment.get? (env : Environment) (name : Text) : Option Text := env.bindings.lookup name

end TemplateCheck
