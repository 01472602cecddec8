import TemplateCheck.Path
import TemplateCheck.Pattern.Reader

/-!
Failure patterns: regular expressions whose named groups tell the message, the line and the file of a
failure.
-/
namespace TemplateCheck

/-- What a pattern found in the output of a tool. -/
structure Diagnostic where
  message : Text
  file : Option Path
  line : Option Nat
  deriving DecidableEq, Repr

structure FailurePattern where
  expr : Expr
  deriving DecidableEq, Repr

namespace FailurePattern

inductive Mistake where
  | unreadable
  | missingGroup (name : Text)
  deriving DecidableEq, Repr

def Mistake.message : Mistake → Text
  | unreadable => "regex parse error"
  | missingGroup name => "missing named group `" ++ name ++ "`"

def messageGroup : Text := "message"

def fileGroup : Text := "file"

def lineGroup : Text := "line"

/-- Reads a pattern. The groups for message and line must be there. -/
def parse (pattern : Text) : Except Mistake FailurePattern :=
  match Pattern.read? pattern with
  | none => .error .unreadable
  | some expr =>
    if !expr.names.contains messageGroup then .error (.missingGroup messageGroup)
    else if !expr.names.contains lineGroup then .error (.missingGroup lineGroup)
    else .ok ⟨expr⟩

/-- The first match in a text. A line that is no count is as good as none. -/
def find (p : FailurePattern) (t : Text) : Option Diagnostic :=
  (p.expr.search t).map fun found =>
    { message := Text.trim ((found.group? messageGroup).getD [])
      file := (found.group? fileGroup).map fun text => Path.ofText (Text.trim text)
      line := (found.group? lineGroup).bind Text.readCount }

end FailurePattern
end TemplateCheck
