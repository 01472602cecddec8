import TemplateCheck.Text

/-!
Strings of a TOML document: basic ones with escapes, literal ones without, each on one line or on
several. Readers start behind the opening marks and give the text and what follows the closing marks.
-/
namespace TemplateCheck.Toml

abbrev Reading (α : Type) := Option (α × Text)

def isPrintable (c : Char) : Bool := c == '\t' || (0x20 ≤ c.toNat && c.toNat != 0x7f)

def hexChar? (count : Nat) (t : Text) : Option Char :=
  match (t.take count).mapM Text.hexDigit? with
  | some digits =>
    let n := digits.foldl (fun n d => 16 * n + d) 0
    if digits.length = count && n.isValidChar then some (Char.ofNat n) else none
  | none => none

/-- The character of an escape, and how many characters the escape has behind its backslash. -/
def escape? : Text → Option (Char × Nat)
  | [] => none
  | c :: rest =>
    match c with
    | 'b' => some ('\x08', 1)
    | 't' => some ('\t', 1)
    | 'n' => some ('\n', 1)
    | 'f' => some ('\x0c', 1)
    | 'r' => some ('\r', 1)
    | 'e' => some ('\x1b', 1)
    | '"' => some ('"', 1)
    | '\\' => some ('\\', 1)
    | 'x' => (hexChar? 2 rest).map (·, 3)
    | 'u' => (hexChar? 4 rest).map (·, 5)
    | 'U' => (hexChar? 8 rest).map (·, 9)
    | _ => none

def basicFrom : Nat → Text → Reading Text
  | _, [] => none
  | skip + 1, _ :: rest => basicFrom skip rest
  | 0, c :: rest =>
    if c == '"' then some ([], rest)
    else if c == '\\' then
      match escape? rest with
      | some (e, length) => (basicFrom length rest).map fun (t, behind) => (e :: t, behind)
      | none => none
    else if isPrintable c then (basicFrom 0 rest).map fun (t, behind) => (c :: t, behind)
    else none

def literal : Text → Reading Text
  | [] => none
  | c :: rest =>
    if c == '\x27' then some ([], rest)
    else if isPrintable c then (literal rest).map fun (t, behind) => (c :: t, behind)
    else none

def breakLength : Text → Nat
  | '\n' :: _ => 1
  | '\r' :: '\n' :: _ => 2
  | _ => 0

def skipBreak (t : Text) : Text := t.drop (breakLength t)

def blankLength : Text → Nat
  | [] => 0
  | c :: rest =>
    if c == ' ' || c == '\t' || c == '\n' || (c == '\r' && rest.head? == some '\n') then
      blankLength rest + 1
    else 0

/-- How many characters behind a backslash at the end of a line are dropped with it. -/
def foldLength (t : Text) : Option Nat :=
  let behind := t.dropWhile fun c => c == ' ' || c == '\t'
  if breakLength behind = 0 then none else some (blankLength t)

/-- How many of the quotes at the start belong to the text, if they close it: three quotes close it,
and up to two more may stand in front of them. -/
def closingQuotes (quote : Char) (t : Text) : Option Nat :=
  let run := (t.takeWhile (· == quote)).length
  if 3 ≤ run then some (min run 5 - 3) else none

def isMultiLine (c : Char) (rest : Text) : Bool :=
  isPrintable c || c == '\n' || (c == '\r' && rest.head? == some '\n')

def multiBasicFrom : Nat → Text → Reading Text
  | _, [] => none
  | skip + 1, _ :: rest => multiBasicFrom skip rest
  | 0, c :: rest =>
    match closingQuotes '"' (c :: rest) with
    | some extra => some (List.replicate extra '"', (c :: rest).drop (extra + 3))
    | none =>
      if c == '\\' then
        match escape? rest, foldLength rest with
        | some (e, length), _ => (multiBasicFrom length rest).map fun (t, behind) => (e :: t, behind)
        | none, some length => multiBasicFrom length rest
        | none, none => none
      else if isMultiLine c rest then
        (multiBasicFrom 0 rest).map fun (t, behind) => (c :: t, behind)
      else none

def multiLiteral : Text → Reading Text
  | [] => none
  | c :: rest =>
    match closingQuotes '\x27' (c :: rest) with
    | some extra => some (List.replicate extra '\x27', (c :: rest).drop (extra + 3))
    | none =>
      if isMultiLine c rest then (multiLiteral rest).map fun (t, behind) => (c :: t, behind) else none

/-- A string of any kind. A line break right behind three opening quotes is dropped. -/
def readString : Text → Reading Text
  | '"' :: '"' :: '"' :: rest => multiBasicFrom 0 (skipBreak rest)
  | '"' :: rest => basicFrom 0 rest
  | '\x27' :: '\x27' :: '\x27' :: rest => multiLiteral (skipBreak rest)
  | '\x27' :: rest => literal rest
  | _ => none

end TemplateCheck.Toml
