import TemplateCheck.Palette

/-!
Excerpts: the rows around a line, numbered, with the line itself marked.
-/
namespace TemplateCheck.Excerpt

def reach : Nat := 5

/-- First and last row to show of `total`; none when the line lies too far beyond the end. A sum
beyond the largest count stays there. -/
def window (line total : Nat) : Option (Nat × Nat) :=
  let first := max (line - reach) 1
  let last := min (min (line + reach) Text.maxCount) total
  if first ≤ last then some (first, last) else none

def stripReturn (row : Text) : Text :=
  if row.getLast? = some '\r' then row.dropLast else row

/-- The rows of a text. A newline at the very end is followed by an empty row. -/
def rows (content : Text) : List Text := (Text.lines content).map stripReturn

/-- One numbered row, which is marked if it is the line itself. -/
def row (mark : Text → Text) (width line number : Nat) (text : Text) : Text :=
  Text.rightAligned width (Text.decimal number) ++ ": " ++
    (if number = line then mark text else text)

def renderWith (mark : Text → Text) (content : Text) (line : Nat) : List Text :=
  match window line (rows content).length with
  | none => []
  | some (first, last) =>
    let width := (Text.decimal last).length
    let shown := ((rows content).drop (first - 1)).take (last + 1 - first)
    (shown.zipIdx first).map fun (text, number) => row mark width line number text

def render (f : Formatter) (content : Text) (line : Nat) : List Text :=
  renderWith (f.apply .mark) content line

end TemplateCheck.Excerpt
