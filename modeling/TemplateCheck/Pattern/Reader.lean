import TemplateCheck.Pattern.Bracket

/-!
Reading a regular expression. Groups that are still open wait on a stack, so that reading is one pass
over the text.
-/
namespace TemplateCheck.Pattern

/-- An element of a sequence. A setting of flags matches nothing and cannot be repeated. -/
inductive Item where
  | setting
  | part (e : Expr)
  deriving DecidableEq, Repr

/-- A sequence that is being read, with the alternatives before it; both are kept last one first. -/
structure Choice where
  alternatives : List Expr := []
  items : List Item := []
  deriving DecidableEq, Repr

structure OpenGroup where
  name : Option Text
  flags : Flags
  outer : Choice
  deriving DecidableEq, Repr

structure State where
  flags : Flags := {}
  names : List Text := []
  choice : Choice := {}
  groups : List OpenGroup := []
  deriving DecidableEq, Repr

def sequence : List Expr → Expr
  | [] => .empty
  | [e] => e
  | e :: rest => .seq e (sequence rest)

def alternation (first : Expr) : List Expr → Expr
  | [] => first
  | e :: rest => .alt first (alternation e rest)

namespace Choice

def push (c : Choice) (e : Expr) : Choice := { c with items := .part e :: c.items }

def sequence (c : Choice) : Expr :=
  Pattern.sequence (c.items.reverse.filterMap fun item => match item with
    | .part e => some e
    | .setting => none)

def next (c : Choice) : Choice := ⟨c.sequence :: c.alternatives, []⟩

def close (c : Choice) : Expr :=
  match (c.sequence :: c.alternatives).reverse with
  | [] => .empty
  | first :: rest => alternation first rest

end Choice

namespace State

def push (s : State) (e : Expr) : State := { s with choice := s.choice.push e }

def nestingLimit : Nat := 250

def openGroup (s : State) (name : Option Text) (flags : Flags) : Option State :=
  if nestingLimit ≤ s.groups.length then none
  else some { s with flags, choice := {}, groups := ⟨name, s.flags, s.choice⟩ :: s.groups }

def closeGroup (s : State) : Option State :=
  match s.groups with
  | [] => none
  | g :: groups =>
    let body := match g.name with
      | some name => .group name s.choice.close
      | none => s.choice.close
    some { s with flags := g.flags, choice := g.outer.push body, groups }

def repeatLast (s : State) (low : Nat) (high : Option Nat) (greedy : Bool) : Option State :=
  match s.choice.items with
  | .part e :: items =>
    let e := Expr.repeated low high (greedy != s.flags.swapGreed) e
    some { s with choice := { s.choice with items := .part e :: items } }
  | _ => none

end State

def isNameStart (c : Char) : Bool := c == '_' || Text.isAlphabetic c

def isNameRest (c : Char) : Bool :=
  c == '_' || c == '.' || c == '[' || c == ']' || Text.isAlphanumeric c

def readName (s : State) (t : Text) : Reading (Text × State) :=
  let name := t.takeWhile (· != '>')
  match name, t.dropWhile (· != '>') with
  | first :: more, '>' :: rest =>
    if isNameStart first && more.all isNameRest && !s.names.contains name then
      some ((name, { s with names := name :: s.names }), rest)
    else none
  | _, _ => none

/-- Flags up to a colon or a closing parenthesis. `seen` holds the letters so far. The answer tells
whether any was there, and which of the two ended them. -/
def readFlags : Flags → List Char → Bool → Text → Reading (Flags × Bool × Char)
  | f, seen, dangling, c :: rest =>
    if c == ':' || c == ')' then
      if dangling then none else some ((f, !seen.isEmpty, c), rest)
    else if c ∈ seen then none
    else if c == '-' then readFlags f (c :: seen) true rest
    else match f.set? c (!seen.elem '-') with
      | some f => readFlags f (c :: seen) false rest
      | none => none
  | _, _, _, [] => none

/-- What follows the opening parenthesis of a group. Conditions on the text ahead or behind are not
supported. -/
def readGroup (s : State) (t : Text) : Reading State :=
  match s.flags.skip t with
  | '?' :: '=' :: _ => none
  | '?' :: '!' :: _ => none
  | '?' :: '<' :: '=' :: _ => none
  | '?' :: '<' :: '!' :: _ => none
  | '?' :: 'P' :: '<' :: t => named t
  | '?' :: '<' :: t => named t
  | '?' :: t =>
    match readFlags s.flags [] false t with
    | none => none
    | some ((flags, some?, closing), rest) =>
      if closing == ')' then
        if some? then
          let choice := { s.choice with items := .setting :: s.choice.items }
          some ({ s with flags, choice }, rest)
        else none
      else (s.openGroup none flags).map fun s => (s, rest)
  | t => (s.openGroup none s.flags).map fun s => (s, t)
where
  named (t : Text) : Reading State :=
    match readName s t with
    | none => none
    | some ((name, s), rest) => (s.openGroup (some name) s.flags).map fun s => (s, rest)

def maxCopies : Nat := 4294967295

def readCopies (f : Flags) (t : Text) : Reading Nat :=
  let t := Text.trimStart t
  let (digits, rest) := takeSkipping f Char.isDigit t.length t
  if digits.isEmpty || maxCopies < Text.digitsValue digits then none
  else some (Text.digitsValue digits, Text.trimStart rest)

def readCounts (f : Flags) (t : Text) : Reading (Nat × Option Nat) :=
  match readCopies f (f.skip t) with
  | none => none
  | some (low, '\x7d' :: rest) => some ((low, some low), rest)
  | some (low, ',' :: rest) =>
    match f.skip rest with
    | '\x7d' :: rest => some ((low, none), rest)
    | rest =>
      match readCopies f rest with
      | some (high, '\x7d' :: rest) => if low ≤ high then some ((low, some high), rest) else none
      | _ => none
  | _ => none

def readGreed : Text → Bool × Text
  | '?' :: rest => (false, rest)
  | t => (true, t)

def readRepetition (s : State) (low : Nat) (high : Option Nat) (t : Text) : Reading State :=
  let (greedy, rest) := readGreed t
  (s.repeatLast low high greedy).map fun s => (s, rest)

def expr? (f : Flags) : Primitive → Option Expr
  | .literal c byte =>
    if !f.unicode && byte && 0x80 ≤ c.toNat then none else some (.set (f.literal c))
  | .set members => (f.whole? members).map .set
  | .look condition => some (.look condition)

def step (s : State) : Text → Reading State
  | '(' :: rest => readGroup s rest
  | ')' :: rest => s.closeGroup.map fun s => (s, rest)
  | '|' :: rest => some ({ s with choice := s.choice.next }, rest)
  | '[' :: rest => (readSet s.flags rest).map fun (set, rest) => (s.push (.set set), rest)
  | '?' :: rest => readRepetition s 0 (some 1) rest
  | '*' :: rest => readRepetition s 0 none rest
  | '+' :: rest => readRepetition s 1 none rest
  | '\x7b' :: rest =>
    match readCounts s.flags rest with
    | none => none
    | some ((low, high), rest) => readRepetition s low high (s.flags.skip rest)
  | '\\' :: rest =>
    match readEscape s.flags rest with
    | none => none
    | some (primitive, rest) => (expr? s.flags primitive).map fun e => (s.push e, rest)
  | '.' :: rest => s.flags.dot?.map fun set => (s.push (.set set), rest)
  | '^' :: rest => some (s.push (.look s.flags.lineStart), rest)
  | '$' :: rest => some (s.push (.look s.flags.lineEnd), rest)
  | c :: rest => (expr? s.flags (.literal c false)).map fun e => (s.push e, rest)
  | [] => none

/-- Reads to the end. Each step takes at least one character, so their number bounds the steps. -/
def readAll : Nat → State → Text → Option State
  | 0, _, _ => none
  | n + 1, s, t =>
    match s.flags.skip t with
    | [] => some s
    | t =>
      match step s t with
      | none => none
      | some (s, rest) => readAll n s rest

def read? (pattern : Text) : Option Expr :=
  match readAll (pattern.length + 1) {} pattern with
  | some s => if s.groups.isEmpty then some s.choice.close else none
  | none => none

end TemplateCheck.Pattern
