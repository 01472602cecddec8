import TemplateCheck.Excerpt
import TemplateCheck.Report
import TemplateCheck.Verbosity

/-!
A report for the terminal: a summary, then a block for each record, which from some verbosity on also
shows where in the text it is.
-/
namespace TemplateCheck.Rendering.Terminal

def line (t : Text) : Text := t ++ ['\n']

def summary (f : Formatter) (count : Nat) : List Text :=
  let style : Style := if count = 0 then .success else .error
  [line (f.apply style ("Errors found: " ++ Text.decimal count)), line []]

def heading (f : Formatter) (r : Record) : List Text :=
  [line (f.apply .error "Error:" ++ " " ++ r.error),
    line (r.file.display ++ ":" ++ Text.decimal r.line)]

def sourceLine (f : Formatter) (r : Record) : List Text :=
  if r.hasDistinctSource then
    [line ("Source: " ++ (match r.source with
      | some source => source.display
      | none => f.apply .dim "<unknown>"))]
  else []

def contentPart (f : Formatter) (r : Record) : List Text :=
  [line [], line (f.apply .header "Content:")] ++ (Excerpt.render f r.content r.line).map line

def block (f : Formatter) (v : Verbosity) (r : Record) : List Text :=
  heading f r ++ sourceLine f r ++ (if v.showsContent then contentPart f r else []) ++ [line []]

def render (f : Formatter) (v : Verbosity) (r : Report) : List Text :=
  summary f r.count ++ (if v.listsRecords then r.records.flatMap (block f v) else [])

end TemplateCheck.Rendering.Terminal
