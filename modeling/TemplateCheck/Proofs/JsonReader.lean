import Mathlib.Data.List.Basic
import TemplateCheck.Rendering.Json

/-!
A reader for the part of JSON that reports are written in: null, counts, texts, arrays and objects. It
goes through a text once, a character at a time, and makes tokens of it; what it cannot read becomes a
token of its own. The tokens are then put together with a stack of the arrays and objects that are
still open. Every value is what its own tokens are read as.
-/
namespace TemplateCheck.Rendering.Json

inductive Token where
  | openObject
  | closeObject
  | openArray
  | closeArray
  | comma
  | colon
  | null
  | number (n : Nat)
  | text (t : Text)
  /-- Something that no document holds at this place. -/
  | junk
  deriving DecidableEq, Repr

/-- What the reader is in the middle of. -/
inductive Mode where
  | between
  | number (soFar : Nat)
  /-- A word of which some letters are left. -/
  | word (left : Text)
  | text (soFar : Text)
  | escaped (soFar : Text)
  /-- A code point of which some digits are left. -/
  | codePoint (soFar : Text) (left value : Nat)
  deriving DecidableEq, Repr

def digitOf (c : Char) : Nat := c.toNat - '0'.toNat

def isBlank (c : Char) : Bool := c == ' ' || c == '\n' || c == '\t' || c == '\r'

def begin (c : Char) : List Token × Mode :=
  if isBlank c then ([], .between)
  else if c.isDigit then ([], .number (digitOf c))
  else match c with
    | '\x7b' => ([.openObject], .between)
    | '\x7d' => ([.closeObject], .between)
    | '[' => ([.openArray], .between)
    | ']' => ([.closeArray], .between)
    | ',' => ([.comma], .between)
    | ':' => ([.colon], .between)
    | '"' => ([], .text [])
    | 'n' => ([], .word "ull")
    | _ => ([.junk], .between)

def unescaped : Char → Option Char
  | '"' => some '"'
  | '\\' => some '\\'
  | '/' => some '/'
  | 'b' => some '\x08'
  | 'f' => some '\x0c'
  | 'n' => some '\n'
  | 'r' => some '\r'
  | 't' => some '\t'
  | _ => none

def step : Mode → Char → List Token × Mode
  | .between, c => begin c
  | .number n, c =>
    if c.isDigit then ([], .number (10 * n + digitOf c))
    else (.number n :: (begin c).1, (begin c).2)
  | .word left, c =>
    if left = [c] then ([.null], .between)
    else if left.head? = some c then ([], .word left.tail)
    else ([.junk], .between)
  | .text t, c =>
    if c = '"' then ([.text t], .between)
    else if c = '\\' then ([], .escaped t)
    else if c.toNat < 0x20 then ([.junk], .between)
    else ([], .text (t ++ [c]))
  | .escaped t, c =>
    if c = 'u' then ([], .codePoint t 4 0)
    else match unescaped c with
      | some d => ([], .text (t ++ [d]))
      | none => ([.junk], .between)
  | .codePoint t left value, c =>
    match Text.hexDigit? c with
    | none => ([.junk], .between)
    | some digit =>
      if 1 < left then ([], .codePoint t (left - 1) (16 * value + digit))
      else if (16 * value + digit).isValidChar then ([], .text (t ++ [Char.ofNat (16 * value + digit)]))
      else ([.junk], .between)

def finish : Mode → List Token
  | .between => []
  | .number n => [.number n]
  | _ => [.junk]

def lex : Mode → Text → List Token
  | mode, [] => finish mode
  | mode, c :: rest => (step mode c).1 ++ lex (step mode c).2 rest

inductive Value where
  | null
  | number (n : Nat)
  | text (t : Text)
  | array (items : List Value)
  | object (members : List (Text × Value))

/-- An array or an object that is still open. -/
inductive Frame where
  | array (items : List Value)
  | object (members : List (Text × Value)) (key : Text)

inductive Stage where
  | value
  /-- A value, or the end of an array that has none. -/
  | firstItem
  /-- A key, or the end of an object that has none. -/
  | firstKey
  | key (members : List (Text × Value))
  | colon (members : List (Text × Value)) (key : Text)
  | complete (v : Value)

def open? (stack : List Frame) : Token → Option (Stage × List Frame)
  | .null => some (.complete .null, stack)
  | .number n => some (.complete (.number n), stack)
  | .text t => some (.complete (.text t), stack)
  | .openArray => some (.firstItem, stack)
  | .openObject => some (.firstKey, stack)
  | _ => none

def next? : Stage → List Frame → Token → Option (Stage × List Frame)
  | .value, stack, token => open? stack token
  | .firstItem, stack, .closeArray => some (.complete (.array []), stack)
  | .firstItem, stack, token => open? (.array [] :: stack) token
  | .firstKey, stack, .closeObject => some (.complete (.object []), stack)
  | .firstKey, stack, .text key => some (.colon [] key, stack)
  | .key members, stack, .text key => some (.colon members key, stack)
  | .colon members key, stack, .colon => some (.value, .object members key :: stack)
  | .complete v, .array items :: stack, .comma => some (.value, .array (items ++ [v]) :: stack)
  | .complete v, .array items :: stack, .closeArray =>
    some (.complete (.array (items ++ [v])), stack)
  | .complete v, .object members key :: stack, .comma => some (.key (members ++ [(key, v)]), stack)
  | .complete v, .object members key :: stack, .closeObject =>
    some (.complete (.object (members ++ [(key, v)])), stack)
  | _, _, _ => none

def parse : Stage → List Frame → List Token → Option Value
  | .complete v, [], [] => some v
  | _, _, [] => none
  | stage, stack, token :: rest =>
    match next? stage stack token with
    | none => none
    | some (stage', stack') => parse stage' stack' rest

def read (t : Text) : Option Value := parse .value [] (lex .between t)

mutual

def Value.tokens : Value → List Token
  | .null => [.null]
  | .number n => [.number n]
  | .text t => [.text t]
  | .array [] => [.openArray, .closeArray]
  | .array (v :: rest) => .openArray :: v.tokens ++ moreItems rest
  | .object [] => [.openObject, .closeObject]
  | .object ((key, v) :: rest) => .openObject :: .text key :: .colon :: v.tokens ++ moreMembers rest

def moreItems : List Value → List Token
  | [] => [.closeArray]
  | v :: rest => .comma :: v.tokens ++ moreItems rest

def moreMembers : List (Text × Value) → List Token
  | [] => [.closeObject]
  | (key, v) :: rest => .comma :: .text key :: .colon :: v.tokens ++ moreMembers rest

end

theorem parse_cons {stage stage' : Stage} {stack stack' : List Frame} {token : Token}
    (h : next? stage stack token = some (stage', stack')) (rest : List Token) :
    parse stage stack (token :: rest) = parse stage' stack' rest := by
  rw [parse]
  simp only [h]

theorem parse_firstItem (v : Value) (stack : List Frame) (rest : List Token) :
    parse .firstItem stack (v.tokens ++ rest) = parse .value (.array [] :: stack) (v.tokens ++ rest) := by
  cases v with
  | null => rfl
  | number n => rfl
  | text t => rfl
  | array items => cases items <;> simp only [Value.tokens, List.cons_append] <;> rfl
  | object members => cases members <;> simp only [Value.tokens, List.cons_append] <;> rfl

mutual

theorem parse_tokens : ∀ (v : Value) (stack : List Frame) (rest : List Token),
    parse .value stack (v.tokens ++ rest) = parse (.complete v) stack rest
  | .null, _, _ => rfl
  | .number _, _, _ => rfl
  | .text _, _, _ => rfl
  | .array [], _, _ => rfl
  | .array (v :: items), stack, rest => by
    rw [Value.tokens]
    simp only [List.cons_append, List.append_assoc]
    rw [parse_cons rfl, parse_firstItem, parse_tokens v, parse_moreItems items]
    rfl
  | .object [], _, _ => rfl
  | .object ((key, v) :: members), stack, rest => by
    rw [Value.tokens]
    simp only [List.cons_append, List.append_assoc]
    rw [parse_cons rfl, parse_cons rfl, parse_cons rfl, parse_tokens v, parse_moreMembers members]
    rfl

theorem parse_moreItems : ∀ (items done : List Value) (v : Value) (stack : List Frame)
    (rest : List Token), parse (.complete v) (.array done :: stack) (moreItems items ++ rest) =
      parse (.complete (.array (done ++ v :: items))) stack rest
  | [], _, _, _, _ => rfl
  | item :: items, done, v, stack, rest => by
    rw [moreItems]
    simp only [List.cons_append, List.append_assoc]
    rw [parse_cons rfl, parse_tokens item, parse_moreItems items, List.append_assoc]
    rfl

theorem parse_moreMembers : ∀ (members done : List (Text × Value)) (key : Text) (v : Value)
    (stack : List Frame) (rest : List Token),
    parse (.complete v) (.object done key :: stack) (moreMembers members ++ rest) =
      parse (.complete (.object (done ++ (key, v) :: members))) stack rest
  | [], _, _, _, _, _ => rfl
  | (key', v') :: members, done, key, v, stack, rest => by
    rw [moreMembers]
    simp only [List.cons_append, List.append_assoc]
    rw [parse_cons rfl, parse_cons rfl, parse_cons rfl, parse_tokens v', parse_moreMembers members,
      List.append_assoc]
    rfl

end

end TemplateCheck.Rendering.Json
