import TemplateCheck.Text.Category

/-!
Text in quotation marks, with everything that would not be seen written as an escape.
-/
namespace TemplateCheck.Text

def codePointEscape (c : Char) : Text := "\\u\x7b" ++ Nat.toDigits 16 c.toNat ++ "\x7d"

/-- Categories of characters that are not seen, or that change the character before them. -/
def unseen : List Category :=
  [.control, .format, .surrogate, .privateUse, .unassigned, .spaceSeparator, .lineSeparator,
    .paragraphSeparator, .nonspacingMark, .enclosingMark]

def isSeen (c : Char) : Bool := (0x20 ≤ c.toNat && c.toNat < 0x7f) || category c ∉ unseen

def quoteChar (c : Char) : Text :=
  match c with
  | '"' => ['\\', '"']
  | '\\' => ['\\', '\\']
  | '\n' => ['\\', 'n']
  | '\r' => ['\\', 'r']
  | '\t' => ['\\', 't']
  | '\x00' => ['\\', '0']
  | c => if isSeen c then [c] else codePointEscape c

def quoted (t : Text) : Text := '"' :: t.flatMap quoteChar ++ ['"']

end TemplateCheck.Text
