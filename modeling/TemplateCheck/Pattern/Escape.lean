import TemplateCheck.Pattern.Flags
import TemplateCheck.Pattern.Property

/-!
Reading what follows a backslash in a pattern. Every reader gives what it has read and the text behind
it, or nothing if the pattern is broken.
-/
namespace TemplateCheck.Pattern

inductive Primitive where
  /-- A character; `byte` tells that it was written as the value of one byte. -/
  | literal (c : Char) (byte : Bool)
  | set (members : CharSet)
  | look (condition : Look)
  deriving DecidableEq, Repr

abbrev Reading (α : Type) := Option (α × Text)

/-- Takes characters while they are accepted, and skips what the flags skip after each of them. The
number bounds how many are taken; the length of the text is always enough. -/
def takeSkipping (f : Flags) (accept : Char → Bool) : Nat → Text → Text × Text
  | n + 1, c :: rest =>
    if accept c then
      let (taken, behind) := takeSkipping f accept n (f.skip rest)
      (c :: taken, behind)
    else ([], c :: rest)
  | _, t => ([], t)

def hexValue (digits : Text) : Nat :=
  digits.foldl (fun n c => 16 * n + (Text.hexDigit? c).getD 0) 0

def scalar? (n : Nat) : Option Char := if n.isValidChar then some (Char.ofNat n) else none

/-- A character by its code point: as many hexadecimal digits as given, or any number in braces. -/
def readHex (f : Flags) (count : Nat) (t : Text) : Reading Primitive :=
  match f.skip t with
  | '\x7b' :: inner =>
    match takeSkipping f (fun c => (Text.hexDigit? c).isSome) inner.length (f.skip inner) with
    | ([], _) => none
    | (digits, '\x7d' :: rest) => (scalar? (hexValue digits)).map fun c => (.literal c false, f.skip rest)
    | _ => none
  | t =>
    let (digits, rest) := takeSkipping f (fun c => (Text.hexDigit? c).isSome) count t
    if digits.length = count then
      (scalar? (hexValue digits)).map fun c => (.literal c (count = 2), rest)
    else none

def readProperty (f : Flags) (negated : Bool) (t : Text) : Reading Primitive :=
  if !f.unicode then none
  else
    let finish := fun (set : CharSet) (rest : Text) =>
      (Primitive.set (if negated then .compl (f.fold set) else f.fold set), rest)
    match f.skip t with
    | '\x7b' :: inner =>
      match takeSkipping f (· != '\x7d') inner.length (f.skip inner) with
      | (query, '\x7d' :: rest) => (Property.ofQuery? query).map fun set => finish set rest
      | _ => none
    | c :: rest => if c == '\\' then none else (Property.named? [c]).map fun set => finish set rest
    | [] => none

def isBoundaryLetter (c : Char) : Bool := c.isAlpha || c == '-'

def namedBoundary? (f : Flags) (name : Text) : Option Look :=
  match String.ofList name with
  | "start" => some (.wordStart f.word)
  | "end" => some (.wordEnd f.word)
  | "start-half" => some (.halfStart f.word)
  | "end-half" => some (.halfEnd f.word)
  | _ => none

/-- A word boundary, which may be followed by its kind in braces. Braces around anything but letters
belong to a repetition. -/
def readBoundary (f : Flags) (t : Text) : Reading Primitive :=
  match t with
  | '\x7b' :: inner =>
    match f.skip inner with
    | [] => none
    | c :: more =>
      if isBoundaryLetter c then
        match takeSkipping f isBoundaryLetter (more.length + 1) (c :: more) with
        | (name, '\x7d' :: rest) => (namedBoundary? f name).map fun look => (.look look, rest)
        | _ => none
      else some (.look (.boundary f.word), t)
  | t => some (.look (.boundary f.word), t)

/-- ASCII characters other than letters and digits stand for themselves, except for angle brackets. -/
def isEscapable (c : Char) : Bool := c.toNat < 0x80 && !c.isAlphanum && c != '<' && c != '>'

def readEscape (f : Flags) : Text → Reading Primitive
  | [] => none
  | c :: rest =>
    if isEscapable c then some (.literal c false, rest)
    else match c with
      | 'x' => readHex f 2 rest
      | 'u' => readHex f 4 rest
      | 'U' => readHex f 8 rest
      | 'p' => readProperty f false rest
      | 'P' => readProperty f true rest
      | 'd' => some (.set f.digit, rest)
      | 'D' => some (.set (.compl f.digit), rest)
      | 's' => some (.set f.blank, rest)
      | 'S' => some (.set (.compl f.blank), rest)
      | 'w' => some (.set f.word, rest)
      | 'W' => some (.set (.compl f.word), rest)
      | 'a' => some (.literal '\x07' false, rest)
      | 'f' => some (.literal '\x0c' false, rest)
      | 't' => some (.literal '\t' false, rest)
      | 'n' => some (.literal '\n' false, rest)
      | 'r' => some (.literal '\r' false, rest)
      | 'v' => some (.literal '\x0b' false, rest)
      | 'A' => some (.look .textStart, rest)
      | 'z' => some (.look .textEnd, rest)
      | 'b' => readBoundary f rest
      | 'B' => some (.look (.notBoundary f.word), rest)
      | '<' => some (.look (.wordStart f.word), rest)
      | '>' => some (.look (.wordEnd f.word), rest)
      | _ => none

end TemplateCheck.Pattern
