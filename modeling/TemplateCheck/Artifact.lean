import TemplateCheck.Text.Quoted
import TemplateCheck.World

/-!
Artifacts: where the code of a template is kept.

Below the root the names of the template's path are repeated, and the last one gets the extension of
the target language.
-/
namespace TemplateCheck.Artifact

/-- The names that a path mentions, without root, dots and double dots. -/
def names (p : Path) : List Text := p.components.filterMap Component.normal?

def path (root source : Path) (extension : Text) : Path :=
  (root.joinAll (names source)).withExtension extension

def validExtension (extension : Text) : Bool := !extension.elem '/'

/-- The path of an artifact. An extension with a slash in it is a mistake of the program itself. -/
def locate {ε : Type} (root source : Path) (extension : Text) : CheckM ε Path :=
  if validExtension extension then return path root source extension
  else CheckM.crash ("extension cannot contain path separators: " ++ Text.quoted extension)

end TemplateCheck.Artifact
