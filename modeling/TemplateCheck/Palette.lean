import TemplateCheck.Environment

/-!
Colours for the terminal.

Each formatter either colours or not. All formatters share one switch, which the newest of them has
set to its own choice: a colouring formatter whose colours were switched off by a later one gives its
text back as it is.
-/
namespace TemplateCheck

/-- When to use colours. -/
inductive ColorMode where
  | auto
  | always
  | never
  deriving DecidableEq, Repr

namespace ColorMode

def name : ColorMode → Text
  | auto => "auto"
  | always => "always"
  | never => "never"

/-- Whether a formatter of this mode colours; `terminal` tells whether the output is one. -/
def usesColor (terminal : Bool) : ColorMode → Bool
  | auto => terminal
  | always => true
  | never => false

/-- The mode that the surroundings ask for; a later rule overrides an earlier one. -/
def ofEnvironment (env : Environment) : ColorMode :=
  if env.get? "CLICOLOR_FORCE" = some "1".toList then always
  else if env.get? "CLICOLOR" = some "0".toList then never
  else if (env.get? "NO_COLOR").isSome then never
  else auto

end ColorMode

/-- What a piece of text is shown as. -/
inductive Style where
  | success
  | error
  | header
  | dim
  | mark
  deriving DecidableEq, Repr

namespace Style

def code : Style → Text
  | success => "32"
  | error => "31"
  | header => "1;34"
  | dim => "2"
  | mark => "1;41;37"

def escape : Char := '\x1b'

def opening (s : Style) : Text := escape :: '[' :: s.code ++ ['m']

def reset : Text := [escape, '[', '0', 'm']

/-- Text in colour. A reset inside of it ends the style early, so the style is opened again there. -/
def paint (s : Style) (t : Text) : Text :=
  s.opening ++ Text.replace reset (reset ++ s.opening) t ++ reset

/-- Text without colours: only a marked row stays recognisable. -/
def plain (s : Style) (t : Text) : Text :=
  match s with
  | mark => "<error>" ++ t ++ "</error>"
  | _ => t

end Style

structure Formatter where
  usesColor : Bool
  deriving DecidableEq, Repr

/-- What a formatter makes of a text while the shared switch stands as given. -/
def Formatter.applyUnder (switch : Bool) (f : Formatter) (style : Style) (t : Text) : Text :=
  if f.usesColor then (if switch then style.paint t else t) else style.plain t

/-- What a formatter makes of a text while it is the newest one. -/
def Formatter.apply (f : Formatter) (style : Style) (t : Text) : Text :=
  f.applyUnder f.usesColor style t

/-- All formatters that were made, oldest first, and the switch that they share. -/
structure Palette where
  formatters : List Formatter := []
  switch : Bool := false
  deriving DecidableEq, Repr

namespace Palette

def make (p : Palette) (usesColor : Bool) : Palette := ⟨p.formatters ++ [⟨usesColor⟩], usesColor⟩

def apply (p : Palette) (index : Nat) (style : Style) (t : Text) : Option Text :=
  p.formatters[index]?.map fun f => f.applyUnder p.switch style t

end Palette
end TemplateCheck
