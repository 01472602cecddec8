import TemplateCheck.Error
import TemplateCheck.Rendering.Json
import TemplateCheck.Rendering.Terminal

/-!
The forms that a report can be shown in.
-/
namespace TemplateCheck

inductive Format where
  | terminal
  | json
  deriving DecidableEq, Repr

def Format.name : Format → Text
  | terminal => "terminal"
  | json => "json"

/-- The pieces that are written, in order, or why there are none. -/
def Rendering.pieces (format : Format) (f : Formatter) (v : Verbosity) (r : Report) :
    Except CheckError (List Text) :=
  match format with
  | .terminal => .ok (Terminal.render f v r)
  | .json => if Json.isSerializable r then .ok [Json.render r] else .error (.json Json.refusal)

end TemplateCheck
