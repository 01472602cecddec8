import TemplateCheck.Pattern.Escape

/-!
Reading a set in brackets. Brackets may stand inside brackets, and sets are combined by `&&`, `--` and
`~~`, from left to right.
-/
namespace TemplateCheck.Pattern

inductive SetOperator where
  | intersection
  | difference
  | symmetricDifference
  deriving DecidableEq, Repr

def SetOperator.apply : SetOperator → CharSet → CharSet → CharSet
  | intersection, a, b => .inter a b
  | difference, a, b => .diff a b
  | symmetricDifference, a, b => .symDiff a b

/-- What waits for a set to be complete: the bracket around it, or an operator with its left side. -/
inductive Waiting where
  | bracket (negated : Bool) (outer : List CharSet)
  | operator (operator : SetOperator) (left : CharSet)
  deriving DecidableEq, Repr

def asciiClass? (name : Text) : Option CharSet :=
  match String.ofList name with
  | "alnum" => some (.ofRanges [('0', '9'), ('A', 'Z'), ('a', 'z')])
  | "alpha" => some (.ofRanges [('A', 'Z'), ('a', 'z')])
  | "ascii" => some (.range '\x00' '\x7f')
  | "blank" => some (.ofRanges [('\t', '\t'), (' ', ' ')])
  | "cntrl" => some (.ofRanges [('\x00', '\x1f'), ('\x7f', '\x7f')])
  | "digit" => some .asciiDigit
  | "graph" => some (.range '!' '~')
  | "lower" => some (.range 'a' 'z')
  | "print" => some (.range ' ' '~')
  | "punct" => some (.ofRanges [('!', '/'), (':', '@'), ('[', '\x60'), ('\x7b', '~')])
  | "space" => some .asciiBlank
  | "upper" => some (.range 'A' 'Z')
  | "word" => some .asciiWord
  | "xdigit" => some (.ofRanges [('0', '9'), ('A', 'F'), ('a', 'f')])
  | _ => none

def readAsciiClass : Text → Reading CharSet
  | ':' :: t =>
    let (negated, t) := match t with
      | '^' :: rest => (true, rest)
      | _ => (false, t)
    match t.dropWhile (· != ':') with
    | ':' :: ']' :: rest =>
      (asciiClass? (t.takeWhile (· != ':'))).map fun set => (if negated then .compl set else set, rest)
    | _ => none
  | _ => none

def readHyphens (f : Flags) : Nat → Text → List CharSet × Text
  | n + 1, '-' :: rest =>
    let (more, behind) := readHyphens f n (f.skip rest)
    (.single '-' :: more, behind)
  | _, t => ([], t)

/-- Reads the start of a set after its opening bracket: a negation, hyphens, or a closing bracket that
stands for itself. -/
def openBracket (f : Flags) (t : Text) : Reading (Bool × List CharSet) :=
  let t := f.skip t
  let (negated, t) := match t with
    | '^' :: rest => (true, f.skip rest)
    | _ => (false, t)
  let (items, t) := readHyphens f t.length t
  match items, t with
  | _, [] => none
  | [], ']' :: rest =>
    match f.skip rest with
    | [] => none
    | rest => some ((negated, [.single ']']), rest)
  | items, t => some ((negated, items), t)

def closeBracket (f : Flags) (negated : Bool) (set : CharSet) : CharSet :=
  if negated then .compl (f.fold set) else f.fold set

def closeOperator (f : Flags) (set : CharSet) : List Waiting → CharSet × List Waiting
  | .operator op left :: waiting => (op.apply (f.fold left) (f.fold set), waiting)
  | waiting => (set, waiting)

def readMember (f : Flags) : Text → Reading Primitive
  | [] => none
  | '\\' :: rest => readEscape f rest
  | c :: rest => some (.literal c false, rest)

def memberSet? (f : Flags) : Primitive → Option CharSet
  | .literal c _ => if f.unicode || c.toNat < 0x80 then some (.single c) else none
  | .set members => some members
  | .look _ => none

def rangeSet? (f : Flags) : Primitive → Primitive → Option CharSet
  | .literal a _, .literal b _ =>
    if a.toNat ≤ b.toNat && (f.unicode || b.toNat < 0x80) then some (.range a b) else none
  | _, _ => none

/-- A member or a range. A hyphen before a closing bracket or another hyphen makes no range. -/
def readRange (f : Flags) (t : Text) : Reading CharSet :=
  match readMember f t with
  | none => none
  | some (first, behind) =>
    let behind := f.skip behind
    let alone := (memberSet? f first).map fun set => (set, behind)
    match behind with
    | [] => none
    | '-' :: after =>
      match f.skip after with
      | ']' :: _ => alone
      | '-' :: _ => alone
      | [] => none
      | after =>
        match readMember f after with
        | none => none
        | some (last, rest) => (rangeSet? f first last).map fun set => (set, rest)
    | _ => alone

/-- Reads on inside a set. Each step takes at least one character, so their number bounds the steps. -/
def readBracket (f : Flags) : Nat → List CharSet → List Waiting → Text → Reading CharSet
  | 0, _, _, _ => none
  | n + 1, items, waiting, t =>
    let operator := fun (op : SetOperator) (rest : Text) =>
      let (left, waiting) := closeOperator f (.unions items) waiting
      readBracket f n [] (.operator op left :: waiting) rest
    match f.skip t with
    | [] => none
    | '[' :: rest =>
      match readAsciiClass rest with
      | some (set, rest) => readBracket f n (set :: items) waiting rest
      | none =>
        match openBracket f rest with
        | none => none
        | some ((negated, first), rest) =>
          readBracket f n first (.bracket negated items :: waiting) rest
    | ']' :: rest =>
      match closeOperator f (.unions items) waiting with
      | (set, [.bracket negated _]) => some (closeBracket f negated set, rest)
      | (set, .bracket negated outer :: waiting) =>
        readBracket f n (closeBracket f negated set :: outer) waiting rest
      | _ => none
    | '&' :: '&' :: rest => operator .intersection rest
    | '-' :: '-' :: rest => operator .difference rest
    | '~' :: '~' :: rest => operator .symmetricDifference rest
    | t =>
      match readRange f t with
      | none => none
      | some (set, rest) => readBracket f n (set :: items) waiting rest

def readSet (f : Flags) (t : Text) : Reading CharSet :=
  match openBracket f t with
  | none => none
  | some ((negated, first), rest) =>
    match readBracket f (rest.length + 1) first [.bracket negated []] rest with
    | none => none
    | some (set, rest) => (f.whole? set).map fun set => (set, rest)

end TemplateCheck.Pattern
