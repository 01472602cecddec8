import TemplateCheck.Report

/-!
A report as JSON, two blanks per level. The text of the files stays out of it.
-/
namespace TemplateCheck.Rendering.Json

def hexDigit (n : Nat) : Char := Nat.digitChar n

/-- Control characters that have no letter of their own, by their code point. -/
def unicodeEscape (c : Char) : Text :=
  "\\u00" ++ [hexDigit (c.toNat / 16), hexDigit (c.toNat % 16)]

def escape (c : Char) : Text :=
  match c with
  | '"' => ['\\', '"']
  | '\\' => ['\\', '\\']
  | '\x08' => ['\\', 'b']
  | '\x0c' => ['\\', 'f']
  | '\n' => ['\\', 'n']
  | '\r' => ['\\', 'r']
  | '\t' => ['\\', 't']
  | c => if c.toNat < 0x20 then unicodeEscape c else [c]

def quoted (t : Text) : Text := '"' :: t.flatMap escape ++ ['"']

def optional : Option Text → Text
  | none => "null"
  | some t => quoted t

/-- A member of an object below the given number of blanks. -/
def field (indent : Nat) (name value : Text) : Text :=
  List.replicate indent ' ' ++ quoted name ++ ": " ++ value

def record (r : Record) : Text :=
  "    \x7b\n" ++
  Text.join ",\n"
    [field 6 "kind" (quoted r.kind.name),
     field 6 "file" (quoted r.file.display),
     field 6 "error" (quoted r.error),
     field 6 "source" (optional (r.source.map Path.display)),
     field 6 "line" (Text.decimal r.line)] ++
  "\n    \x7d"

def array (records : List Record) : Text :=
  if records.isEmpty then "[]" else "[\n" ++ Text.join ",\n" (records.map record) ++ "\n  ]"

def render (r : Report) : Text :=
  "\x7b\n" ++
  Text.join ",\n" [field 2 "count" (Text.decimal r.count), field 2 "errors" (array r.records)] ++
  "\n\x7d\n"

/-- Whether all paths of a report are texts. Others have no form in JSON. -/
def isSerializable (r : Report) : Bool :=
  r.records.all fun record => record.file.isText && record.source.all Path.isText

def refusal : Text := "path contains invalid UTF-8 characters"

end TemplateCheck.Rendering.Json
