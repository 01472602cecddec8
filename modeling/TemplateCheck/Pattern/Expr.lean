import TemplateCheck.Pattern.CharSet

/-!
Regular expressions and how they match.

Matching tries alternatives in order and takes the first way that leads to the end, so it is a function
from a continuation to the first success. A loop never goes round without reading a character, except
that its first round may be empty, in which case it is left at once.
-/
namespace TemplateCheck

inductive Look where
  | textStart
  | textEnd
  | lineStart
  | lineEnd
  /-- Lines that may also end in a carriage return. -/
  | returnLineStart
  | returnLineEnd
  | boundary (letters : CharSet)
  | notBoundary (letters : CharSet)
  | wordStart (letters : CharSet)
  | wordEnd (letters : CharSet)
  | halfStart (letters : CharSet)
  | halfEnd (letters : CharSet)
  deriving DecidableEq, Repr

/-- Where a match stands: the character before, the text ahead, and what named groups hold, latest
first. -/
structure Cursor where
  before : Option Char := none
  rest : Text
  groups : List (Text × Text) := []
  deriving DecidableEq, Repr

namespace Cursor

def isIn (set : CharSet) : Option Char → Bool
  | none => false
  | some c => set.contains c

def wordBefore (s : Cursor) (letters : CharSet) : Bool := isIn letters s.before

def wordAfter (s : Cursor) (letters : CharSet) : Bool := isIn letters s.rest.head?

def holds (s : Cursor) : Look → Bool
  | .textStart => s.before.isNone
  | .textEnd => s.rest.isEmpty
  | .lineStart => s.before.isNone || s.before == some '\n'
  | .lineEnd => s.rest.isEmpty || s.rest.head? == some '\n'
  | .returnLineStart =>
    s.before.isNone || s.before == some '\n' ||
      (s.before == some '\r' && s.rest.head? != some '\n')
  | .returnLineEnd =>
    s.rest.isEmpty || s.rest.head? == some '\r' ||
      (s.rest.head? == some '\n' && s.before != some '\r')
  | .boundary letters => s.wordBefore letters != s.wordAfter letters
  | .notBoundary letters => s.wordBefore letters == s.wordAfter letters
  | .wordStart letters => !s.wordBefore letters && s.wordAfter letters
  | .wordEnd letters => s.wordBefore letters && !s.wordAfter letters
  | .halfStart letters => !s.wordBefore letters
  | .halfEnd letters => !s.wordAfter letters

def capture (s : Cursor) (name : Text) (start : Text) : Cursor :=
  { s with groups := (name, start.take (start.length - s.rest.length)) :: s.groups }

def group? (s : Cursor) (name : Text) : Option Text := s.groups.lookup name

end Cursor

inductive Expr where
  | empty
  | set (members : CharSet)
  | look (condition : Look)
  | group (name : Text) (body : Expr)
  | seq (a b : Expr)
  | alt (a b : Expr)
  /-- As many copies one after the other. -/
  | times (count : Nat) (body : Expr)
  /-- Up to as many copies; a greedy one takes as many as it can. -/
  | upTo (count : Nat) (greedy : Bool) (body : Expr)
  /-- One copy or more. -/
  | plus (greedy : Bool) (body : Expr)
  deriving DecidableEq, Repr

namespace Expr

abbrev Cont := Cursor → Option Cursor

def prefer (first : Bool) (a b : Cont) : Cont := fun s =>
  match first with
  | true => match a s with
    | some t => some t
    | none => b s
  | false => match b s with
    | some t => some t
    | none => a s

def repeatTimes (body : Cont → Cont) (next : Cont) : Nat → Cont
  | 0 => next
  | n + 1 => body (repeatTimes body next n)

def repeatUpTo (greedy : Bool) (body : Cont → Cont) (next : Cont) : Nat → Cont
  | 0 => next
  | n + 1 => prefer greedy (body (repeatUpTo greedy body next n)) next

/-- Further rounds of a loop, each of which reads something. There are at most as many as characters
are left. -/
def rounds (greedy : Bool) (body : Cont → Cont) (next : Cont) : Nat → Cont
  | 0 => next
  | n + 1 => fun s =>
    prefer greedy
      (body fun t => if t.rest.length < s.rest.length then rounds greedy body next n t else none)
      next s

def run : Expr → Cont → Cont
  | empty, next => next
  | set members, next => fun s =>
    match s.rest with
    | c :: rest => if members.contains c then next { s with before := some c, rest } else none
    | [] => none
  | look condition, next => fun s => if s.holds condition then next s else none
  | group name body, next => fun s => run body (fun t => next (t.capture name s.rest)) s
  | seq a b, next => run a (run b next)
  | alt a b, next => prefer true (run a next) (run b next)
  | times n body, next => repeatTimes (run body) next n
  | upTo n greedy body, next => repeatUpTo greedy (run body) next n
  | plus greedy body, next => fun s =>
    run body (fun t =>
      if t.rest.length < s.rest.length then rounds greedy (run body) next t.rest.length t
      else next t) s

def searchFrom (e : Expr) : Option Char → Text → Option Cursor
  | before, [] => run e some ⟨before, [], []⟩
  | before, c :: rest =>
    match run e some ⟨before, c :: rest, []⟩ with
    | some found => some found
    | none => searchFrom e (some c) rest

def search (e : Expr) (t : Text) : Option Cursor := searchFrom e none t

def names : Expr → List Text
  | group name body => name :: names body
  | seq a b => names a ++ names b
  | alt a b => names a ++ names b
  | times _ body => names body
  | upTo _ _ body => names body
  | plus _ body => names body
  | _ => []

/-- From `low` to `high` copies; no `high` means any number. Nothing stays of a body that is repeated
zero times. -/
def repeated (low : Nat) (high : Option Nat) (greedy : Bool) (body : Expr) : Expr :=
  match low, high with
  | 0, none => upTo 1 greedy (plus greedy body)
  | low + 1, none => seq (times low body) (plus greedy body)
  | low, some high =>
    if high = 0 then empty
    else if low = high then times low body
    else seq (times low body) (upTo (high - low) greedy body)

end Expr
end TemplateCheck
