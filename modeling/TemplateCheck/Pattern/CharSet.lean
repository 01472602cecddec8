import TemplateCheck.Text.CaseFold
import TemplateCheck.Text.Letter
import TemplateCheck.Text.Script

/-!
Sets of characters, as expressions over ranges and properties.
-/
namespace TemplateCheck

inductive CharSet where
  | range (low high : Char)
  | digit
  | blank
  | word
  | alphabetic
  | lowercase
  | uppercase
  | category (category : Text.Category)
  | script (code : Text)
  | union (a b : CharSet)
  | inter (a b : CharSet)
  | compl (a : CharSet)
  /-- Everything that differs from a member in case only. -/
  | folded (a : CharSet)
  /-- The same among ASCII letters. -/
  | foldedAscii (a : CharSet)
  deriving DecidableEq, Repr

namespace CharSet

def asciiVariants (c : Char) : List Char := [c, c.toLower, c.toUpper]

def contains : CharSet → Char → Bool
  | range low high, c => low.toNat ≤ c.toNat && c.toNat ≤ high.toNat
  | digit, c => Text.isDecimalDigit c
  | blank, c => Text.blank c
  | word, c => Text.isWordCharacter c
  | alphabetic, c => Text.isAlphabetic c
  | lowercase, c => Text.isLowercase c
  | uppercase, c => Text.isUppercase c
  | category k, c => Text.category c == k
  | script code, c => Text.script c == code
  | union a b, c => a.contains c || b.contains c
  | inter a b, c => a.contains c && b.contains c
  | compl a, c => !a.contains c
  | folded a, c => (Text.caseVariants c).any a.contains
  | foldedAscii a, c => (asciiVariants c).any a.contains

def single (c : Char) : CharSet := range c c

def full : CharSet := range '\x00' (Char.ofNat 0x10ffff)

def none : CharSet := compl full

def unions (sets : List CharSet) : CharSet := sets.foldr union none

def ofRanges (ranges : List (Char × Char)) : CharSet := unions (ranges.map fun (a, b) => range a b)

def diff (a b : CharSet) : CharSet := inter a (compl b)

def symDiff (a b : CharSet) : CharSet := union (diff a b) (diff b a)

def asciiDigit : CharSet := range '0' '9'

def asciiBlank : CharSet := union (range '\t' '\r') (single ' ')

def asciiWord : CharSet := ofRanges [('0', '9'), ('A', 'Z'), ('_', '_'), ('a', 'z')]

/-- Whether every member of a set that was read byte by byte is an ASCII character. -/
def isAscii (a : CharSet) : Bool :=
  (List.range 0x80).all fun n => !a.contains (Char.ofNat (n + 0x80))

end CharSet
end TemplateCheck
