import TemplateCheck.Toml.Quoted
import TemplateCheck.Toml.Scalar
import TemplateCheck.Toml.Value

/-!
Reading a TOML document. A document is accepted as a whole or not at all.
-/
namespace TemplateCheck.Toml

def skipBlanks (t : Text) : Text := t.dropWhile fun c => c == ' ' || c == '\t'

/-- What follows a comment, which reaches to the end of its line. Control characters are refused. -/
def skipComment : Text → Option Text
  | [] => some []
  | c :: rest =>
    if c == '\n' || (c == '\r' && rest.head? == some '\n') then some (c :: rest)
    else if isPrintable c then skipComment rest
    else none

def skipLines : Nat → Text → Option Text
  | 0, t => some t
  | n + 1, t =>
    match skipBlanks t with
    | '#' :: rest => (skipComment rest).bind (skipLines n)
    | t => if breakLength t = 0 then some t else skipLines n (skipBreak t)

/-- Skips to the start of the next line; nothing but a comment may stand before it. -/
def endLine (t : Text) : Option Text :=
  match skipBlanks t with
  | [] => some []
  | '#' :: rest => (skipComment rest).map skipBreak
  | t => if breakLength t = 0 then none else some (skipBreak t)

def isBareKey (c : Char) : Bool := c.isAlphanum || c == '_' || c == '-'

def readKeyPart (t : Text) : Reading Text :=
  match t with
  | '"' :: '"' :: '"' :: _ => none
  | '\x27' :: '\x27' :: '\x27' :: _ => none
  | '"' :: rest => basicFrom 0 rest
  | '\x27' :: rest => literal rest
  | t =>
    let key := t.takeWhile isBareKey
    if key.isEmpty then none else some (key, t.dropWhile isBareKey)

/-- A key with the keys in front of it, separated by dots, and blanks around everything. -/
def readKey : Nat → Text → Reading (List Text × Text)
  | 0, _ => none
  | n + 1, t =>
    match readKeyPart (skipBlanks t) with
    | none => none
    | some (part, rest) =>
      match skipBlanks rest with
      | '.' :: rest => (readKey n rest).map fun ((path, key), rest) => ((part :: path, key), rest)
      | rest => some (([], part), rest)

def nestingLimit : Nat := 80

mutual

/-- A value. The first number bounds the steps, the second counts the levels of nesting. -/
def readValue : Nat → Nat → Text → Reading Value
  | 0, _, _ => none
  | n + 1, depth, t =>
    match t with
    | '"' :: _ => (readString t).map fun (s, rest) => (.string s, rest)
    | '\x27' :: _ => (readString t).map fun (s, rest) => (.string s, rest)
    | '[' :: rest => if depth < nestingLimit then readArray n (depth + 1) [] rest else none
    | '\x7b' :: rest =>
      if depth < nestingLimit then readBraces n (depth + 1) [] rest else none
    | t =>
      let (token, rest) := takeScalar t
      if isScalar token then some (.scalar, rest) else none

def readArray : Nat → Nat → List Value → Text → Reading Value
  | 0, _, _, _ => none
  | n + 1, depth, items, t =>
    match skipLines t.length t with
    | none => none
    | some (']' :: rest) => some (.array items.reverse, rest)
    | some t =>
      match readValue n depth t with
      | none => none
      | some (value, rest) =>
        match skipLines rest.length rest with
        | some (',' :: rest) => readArray n depth (value :: items) rest
        | some (']' :: rest) => some (.array (value :: items).reverse, rest)
        | _ => none

def readBraces : Nat → Nat → Entries → Text → Reading Value
  | 0, _, _, _ => none
  | n + 1, depth, entries, t =>
    match skipLines t.length t with
    | none => none
    | some ('\x7d' :: rest) => some (.table .braces entries, rest)
    | some t =>
      match readKey t.length t with
      | some ((path, key), '=' :: rest) =>
        match readValue n depth (skipBlanks rest) with
        | none => none
        | some (value, rest) =>
          match insertValue .bracesDotted .braces entries path key value with
          | none => none
          | some entries =>
            match skipLines rest.length rest with
            | some (',' :: rest) => readBraces n depth entries rest
            | some ('\x7d' :: rest) => some (.table .braces entries, rest)
            | _ => none
      | _ => none

end

/-- The table that entries are added to: where it belongs, and what it holds so far. -/
structure OpenTable where
  path : List Text
  key : Text
  /-- Whether it is one more table of an array. -/
  inArray : Bool
  entries : Entries

/-- A document that is being read: what is complete, and the section that is open. -/
structure Document where
  root : Entries := []
  current : Option OpenTable := none

namespace Document

def addToArray (key : Text) (entries : Entries) (_ : Origin) (outer : Entries) : Option Entries :=
  match outer.get? key with
  | none => some (outer.put key (.tables [.table .header entries]))
  | some (.tables before) => some (outer.put key (.tables (.table .header entries :: before)))
  | some _ => none

def addTable (key : Text) (entries : Entries) (_ : Origin) (outer : Entries) : Option Entries :=
  some (outer.put key (.table .header entries))

def finish (d : Document) : Option Entries :=
  match d.current with
  | none => some d.root
  | some s =>
    let add := if s.inArray then addToArray s.key s.entries else addTable s.key s.entries
    change .header add s.path .header d.root

/-- The entries of the table at the end of a path of keys, none if the path leads nowhere yet. -/
def entriesAt : List Text → Entries → Option Entries
  | [], entries => some entries
  | key :: path, entries =>
    match entries.get? key with
    | some (.table _ inner) => entriesAt path inner
    | some (.tables (.table _ last :: _)) => entriesAt path last
    | _ => none

def openTable (d : Document) (inArray : Bool) (path : List Text) (key : Text) : Option Document :=
  match d.finish with
  | none => none
  | some root =>
    match change .header (fun _ entries => some entries) path .header root with
    | none => none
    | some root =>
      if inArray then some ⟨root, some ⟨path, key, true, []⟩⟩
      else
        match (entriesAt path root).bind fun entries => entries.get? key with
        | none => some ⟨root, some ⟨path, key, false, []⟩⟩
        | some (.table .mentioned inner) => some ⟨root, some ⟨path, key, false, inner⟩⟩
        | some _ => none

def insert (d : Document) (path : List Text) (key : Text) (value : Value) : Option Document :=
  match d.current with
  | none => (insertValue .dotted .header d.root path key value).map fun root => { d with root }
  | some s =>
    (insertValue .dotted .header s.entries path key value).map fun entries =>
      { d with current := some { s with entries } }

end Document

def readHeader (d : Document) (t : Text) : Reading Document :=
  let (inArray, t) := match t with
    | '[' :: rest => (true, rest)
    | _ => (false, t)
  match readKey t.length t with
  | some ((path, key), ']' :: rest) =>
    if inArray then
      match rest with
      | ']' :: rest => (d.openTable true path key).map fun d => (d, rest)
      | _ => none
    else (d.openTable false path key).map fun d => (d, rest)
  | _ => none

def readEntry (d : Document) (t : Text) : Reading Document :=
  match readKey t.length t with
  | some ((path, key), '=' :: rest) =>
    match readValue (2 * rest.length + 2) 0 (skipBlanks rest) with
    | none => none
    | some (value, rest) => (d.insert path key value).map fun d => (d, rest)
  | _ => none

/-- Reads line after line. Each takes at least one character, so their number bounds the steps. -/
def readLines : Nat → Document → Text → Option Document
  | 0, _, _ => none
  | n + 1, d, t =>
    match skipLines t.length t with
    | none => none
    | some [] => some d
    | some t =>
      let statement := match t with
        | '[' :: rest => readHeader d rest
        | t => readEntry d t
      match statement with
      | none => none
      | some (d, rest) => (endLine rest).bind (readLines n d)

def dropByteOrderMark : Text → Text
  | '\ufeff' :: rest => rest
  | t => t

def read? (t : Text) : Option Entries :=
  let t := dropByteOrderMark t
  (readLines (t.length + 1) {} t).bind Document.finish

end TemplateCheck.Toml
