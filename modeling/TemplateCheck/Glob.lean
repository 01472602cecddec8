import TemplateCheck.Text

/-!
Glob patterns for paths: `*` and `?` match any characters, `**` stands for whole directories and must
be a component of its own, `[a-z]` and `[!a-z]` match one character. There is no escape character.
-/
namespace TemplateCheck

namespace Glob

inductive Range where
  | single (c : Char)
  | span (low high : Char)
  deriving DecidableEq, Repr

namespace Range

def contains : Range → Char → Bool
  | single a, c => a == c
  | span low high, c => low ≤ c && c ≤ high

end Range

inductive Token where
  | char (c : Char)
  | anyChar
  | anySequence
  | anyDirectories
  | within (ranges : List Range)
  | except (ranges : List Range)
  deriving DecidableEq, Repr

inductive Mistake where
  | longWildcard
  | brokenRecursion
  | brokenRange
  deriving DecidableEq, Repr

structure Error where
  position : Nat
  mistake : Mistake
  deriving DecidableEq, Repr

def Mistake.message : Mistake → Text
  | longWildcard => "wildcards are either regular `*` or recursive `**`"
  | brokenRecursion => "recursive wildcards must form a single path component"
  | brokenRange => "invalid range pattern"

def Error.message (e : Error) : Text :=
  "Pattern syntax error near position " ++ Text.decimal e.position ++ ": " ++ e.mistake.message

/-- The members of a bracket expression; a dash between two characters makes a span. -/
def ranges : Text → List Range
  | a :: '-' :: b :: rest => .span a b :: ranges rest
  | a :: rest => .single a :: ranges rest
  | [] => []

/-- Reads a bracket expression after its opening bracket. The first member may be a closing bracket.
The result also tells how many characters were read. -/
def bracket? : Text → Option (Token × Nat)
  | '!' :: first :: rest =>
    if rest.elem ']' then
      let inner := first :: rest.takeWhile (· ≠ ']')
      some (.except (ranges inner), inner.length + 2)
    else none
  | first :: rest =>
    if first ≠ '!' && rest.elem ']' then
      let inner := first :: rest.takeWhile (· ≠ ']')
      some (.within (ranges inner), inner.length + 1)
    else none
  | [] => none

def pushDirectories (tokens : List Token) : List Token :=
  match tokens with
  | .anyDirectories :: _ :: _ => tokens
  | _ => .anyDirectories :: tokens

/-- Reads a pattern from `position` on. `before` is the character in front of it, `skip` counts
characters that an earlier token has taken, `tokens` holds what was read, last one first. -/
def scan : Nat → Option Char → Nat → List Token → Text → Except Error (List Token)
  | _, _, _, tokens, [] => .ok tokens.reverse
  | position, _, skip + 1, tokens, c :: rest => scan (position + 1) (some c) skip tokens rest
  | position, before, 0, tokens, c :: rest =>
    match c with
    | '?' => scan (position + 1) (some c) 0 (.anyChar :: tokens) rest
    | '*' =>
      let more := rest.takeWhile (· == '*')
      let after := rest.dropWhile (· == '*')
      match more.length with
      | 0 => scan (position + 1) (some c) 0 (.anySequence :: tokens) rest
      | 1 =>
        if before = none ∨ before = some '/' then
          match after with
          | [] => scan (position + 1) (some c) 1 (pushDirectories tokens) rest
          | '/' :: _ => scan (position + 1) (some c) 2 (pushDirectories tokens) rest
          | _ :: _ => .error ⟨position + 2, .brokenRecursion⟩
        else .error ⟨position - 1, .brokenRecursion⟩
      | _ => .error ⟨position + 2, .longWildcard⟩
    | '[' =>
      match bracket? rest with
      | some (token, taken) => scan (position + 1) (some c) taken (token :: tokens) rest
      | none => .error ⟨position, .brokenRange⟩
    | c => scan (position + 1) (some c) 0 (.char c :: tokens) rest

end Glob

structure Glob where
  tokens : List Glob.Token
  deriving DecidableEq, Repr

namespace Glob

def parse (pattern : Text) : Except Error Glob := (scan 0 none 0 [] pattern).map Glob.mk

def anySuffix (rest : Text → Bool) : Text → Bool
  | [] => rest []
  | c :: t => rest (c :: t) || anySuffix rest t

def afterSlash (rest : Text → Bool) : Text → Bool
  | [] => rest []
  | c :: t => (c == '/' && rest t) || afterSlash rest t

def matchTokens : List Token → Text → Bool
  | [], t => t.isEmpty
  | .anySequence :: tokens, t => anySuffix (matchTokens tokens) t
  | .anyDirectories :: tokens, t => matchTokens tokens t || afterSlash (matchTokens tokens) t
  | .char _ :: _, [] => false
  | .char a :: tokens, c :: t => a == c && matchTokens tokens t
  | .anyChar :: _, [] => false
  | .anyChar :: tokens, _ :: t => matchTokens tokens t
  | .within _ :: _, [] => false
  | .within ranges :: tokens, c :: t => ranges.any (·.contains c) && matchTokens tokens t
  | .except _ :: _, [] => false
  | .except ranges :: tokens, c :: t => !ranges.any (·.contains c) && matchTokens tokens t

def isMatch (g : Glob) (t : Text) : Bool := matchTokens g.tokens t

end Glob
end TemplateCheck
