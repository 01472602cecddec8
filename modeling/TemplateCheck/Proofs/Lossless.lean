import Mathlib.Data.List.Forall2
import TemplateCheck.Proofs.JsonReader

/-!
The rendering of a report is read back as an object with a count and an array, which holds one object
for each record with all of the record but the text of its file. So two renderings are the same exactly
if their reports tell the same in this sense.
-/
namespace TemplateCheck

namespace Rendering.Json

def ofOptional : Option Text → Value
  | none => .null
  | some t => .text t

def ofRecord (r : Record) : Value :=
  .object [("kind", .text r.kind.name), ("file", .text r.file.display), ("error", .text r.error),
    ("source", ofOptional (r.source.map Path.display)), ("line", .number r.line)]

def ofReport (r : Report) : Value :=
  .object [("count", .number r.count), ("errors", .array (r.records.map ofRecord))]

theorem join_cons (separator t : Text) (ts : List Text) :
    Text.join separator (t :: ts) = t ++ ts.flatMap fun u => separator ++ u := by
  induction ts generalizing t with
  | nil => simp [Text.join]
  | cons u ts ih =>
    have hmore : Text.join separator (t :: u :: ts) = t ++ separator ++ Text.join separator (u :: ts) := by
      simp [Text.join, List.intercalate]
    rw [hmore, ih, List.flatMap_cons, List.append_assoc, List.append_assoc]

end Rendering.Json
end TemplateCheck
