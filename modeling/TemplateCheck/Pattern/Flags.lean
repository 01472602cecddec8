import TemplateCheck.Pattern.Expr

/-!
Flags of a regular expression, and what the basic elements mean under them.
-/
namespace TemplateCheck.Pattern

structure Flags where
  ignoreCase : Bool := false
  multiLine : Bool := false
  dotAll : Bool := false
  swapGreed : Bool := false
  /-- Whether characters, not bytes, are matched. -/
  unicode : Bool := true
  /-- Whether carriage returns end lines too. -/
  returns : Bool := false
  /-- Whether blanks and comments in the pattern are skipped. -/
  verbose : Bool := false
  deriving DecidableEq, Repr

namespace Flags

def set? (f : Flags) (letter : Char) (value : Bool) : Option Flags :=
  match letter with
  | 'i' => some { f with ignoreCase := value }
  | 'm' => some { f with multiLine := value }
  | 's' => some { f with dotAll := value }
  | 'U' => some { f with swapGreed := value }
  | 'u' => some { f with unicode := value }
  | 'R' => some { f with returns := value }
  | 'x' => some { f with verbose := value }
  | _ => none

def fold (f : Flags) (set : CharSet) : CharSet :=
  if !f.ignoreCase then set else if f.unicode then .folded set else .foldedAscii set

/-- A set that is matched as it is. Byte by byte, only ASCII characters are sure to be whole. -/
def whole? (f : Flags) (set : CharSet) : Option CharSet :=
  if f.unicode || set.isAscii then some set else none

def digit (f : Flags) : CharSet := if f.unicode then .digit else .asciiDigit

def blank (f : Flags) : CharSet := if f.unicode then .blank else .asciiBlank

def word (f : Flags) : CharSet := if f.unicode then .word else .asciiWord

def dot? (f : Flags) : Option CharSet :=
  if !f.unicode then none
  else if f.dotAll then some .full
  else if f.returns then some (.compl (.union (.single '\n') (.single '\r')))
  else some (.compl (.single '\n'))

def lineStart (f : Flags) : Look :=
  if !f.multiLine then .textStart else if f.returns then .returnLineStart else .lineStart

def lineEnd (f : Flags) : Look :=
  if !f.multiLine then .textEnd else if f.returns then .returnLineEnd else .lineEnd

/-- One literal character. Without Unicode, a character beyond ASCII has no other case. -/
def literal (f : Flags) (c : Char) : CharSet :=
  if f.unicode || c.toNat < 0x80 then f.fold (.single c) else .single c

end Flags

/-- The text behind blanks and comments; `comment` tells whether the text starts inside a comment. -/
def skipComments : Bool → Text → Text
  | _, [] => []
  | true, c :: rest => skipComments (c != '\n') rest
  | false, c :: rest =>
    if Text.blank c then skipComments false rest
    else if c == '#' then skipComments true rest
    else c :: rest

def Flags.skip (f : Flags) (t : Text) : Text := if f.verbose then skipComments false t else t

end TemplateCheck.Pattern
