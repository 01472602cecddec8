import TemplateCheck.Shell.Command

/-!
The tokens of a shell script.
-/
namespace TemplateCheck.Shell

inductive Operator where
  | newline
  | semicolon
  | doubleSemicolon
  | and
  | or
  | pipe
  | background
  | openParen
  | closeParen
  deriving DecidableEq, Repr

inductive Token where
  | word (word : Word)
  | operator (operator : Operator)
  /-- A redirection that still waits for the word behind it. -/
  | input
  | output (stream : Nat)
  | copy (stream target : Nat)
  deriving DecidableEq, Repr

def isNameStart (c : Char) : Bool := c.isAlpha || c == '_'

def isNameRest (c : Char) : Bool := c.isAlphanum || c == '_'

def isSpecialParameter (c : Char) : Bool := c.isDigit || "@*#?$!-".toList.elem c

/-- The formula up to two closing parentheses; parentheses inside of it come in pairs. -/
def readFormula : Nat → Text → Option (Text × Text)
  | _, [] => none
  | 0, ')' :: ')' :: rest => some ([], rest)
  | depth, c :: rest =>
    let depth := if c == '(' then depth + 1 else if c == ')' then depth - 1 else depth
    (readFormula depth rest).map fun (t, behind) => (c :: t, behind)

def readDollar (quoted : Bool) (t : Text) : Option (Piece × Text) :=
  match t with
  | '(' :: '(' :: rest => (readFormula 0 rest).map fun (f, rest) => (.arithmetic f quoted, rest)
  | '\x7b' :: rest =>
    match rest.dropWhile (· != '\x7d') with
    | _ :: behind => some (.variable (rest.takeWhile (· != '\x7d')) quoted, behind)
    | [] => none
  | c :: rest =>
    if isNameStart c then
      some (.variable (c :: rest.takeWhile isNameRest) quoted, rest.dropWhile isNameRest)
    else if isSpecialParameter c then some (.variable [c] quoted, rest)
    else some (.literal ['$'] quoted, t)
  | [] => some (.literal ['$'] quoted, [])

def readDoubleQuoted : Nat → Text → Option (Word × Text)
  | 0, _ => none
  | _ + 1, [] => none
  | n + 1, c :: rest =>
    let go := fun (piece : Piece) (rest : Text) =>
      (readDoubleQuoted n rest).map fun (w, behind) => (piece :: w, behind)
    if c == '"' then some ([.literal [] true], rest)
    else if c == '$' then (readDollar true rest).bind fun (piece, rest) => go piece rest
    else if c == '\\' then
      match rest with
      | '\n' :: rest => readDoubleQuoted n rest
      | d :: rest =>
        if d == '"' || d == '\\' || d == '$' || d == '\x60' then go (.literal [d] true) rest
        else go (.literal [c, d] true) rest
      | [] => none
    else go (.literal [c] true) rest

def isWordEnd (c : Char) : Bool := " \t\n;&|<>()".toList.elem c

def readWord : Nat → Text → Option (Word × Text)
  | 0, t => some ([], t)
  | _ + 1, [] => some ([], [])
  | n + 1, c :: rest =>
    let go := fun (pieces : Word) (rest : Text) =>
      (readWord n rest).map fun (w, behind) => (pieces ++ w, behind)
    if isWordEnd c then some ([], c :: rest)
    else if c == '\x27' then
      match rest.dropWhile (· != '\x27') with
      | _ :: behind => go [.literal (rest.takeWhile (· != '\x27')) true] behind
      | [] => none
    else if c == '"' then (readDoubleQuoted n rest).bind fun (pieces, rest) => go pieces rest
    else if c == '\\' then
      match rest with
      | '\n' :: rest => readWord n rest
      | d :: rest => go [.literal [d] true] rest
      | [] => go [.literal [c] true] []
    else if c == '$' then (readDollar false rest).bind fun (piece, rest) => go [piece] rest
    else go [.literal [c] false] rest

def readRedirect (stream : Option Nat) : Text → Option (Token × Text)
  | '<' :: rest => some (.input, rest)
  | '>' :: '&' :: d :: rest =>
    if d.isDigit then some (.copy (stream.getD 1) (d.toNat - '0'.toNat), rest) else none
  | '>' :: '>' :: rest => some (.output (stream.getD 1), rest)
  | '>' :: rest => some (.output (stream.getD 1), rest)
  | _ => none

def readOperator : Text → Option (Operator × Text)
  | '\n' :: rest => some (.newline, rest)
  | ';' :: ';' :: rest => some (.doubleSemicolon, rest)
  | ';' :: rest => some (.semicolon, rest)
  | '&' :: '&' :: rest => some (.and, rest)
  | '&' :: rest => some (.background, rest)
  | '|' :: '|' :: rest => some (.or, rest)
  | '|' :: rest => some (.pipe, rest)
  | '(' :: rest => some (.openParen, rest)
  | ')' :: rest => some (.closeParen, rest)
  | _ => none

/-- All tokens of a script; nothing if a quotation does not end. The number bounds the steps. -/
def tokens : Nat → Text → Option (List Token)
  | 0, _ => some []
  | _ + 1, [] => some []
  | n + 1, c :: rest =>
    let go := fun (token : Token) (rest : Text) => (tokens n rest).map (token :: ·)
    if c == ' ' || c == '\t' then tokens n rest
    else if c == '#' then tokens n (rest.dropWhile (· != '\n'))
    else match readOperator (c :: rest) with
      | some (op, behind) => go (.operator op) behind
      | none =>
        match readRedirect none (c :: rest) with
        | some (token, behind) => go token behind
        | none =>
          match (if c.isDigit then readRedirect (some (c.toNat - '0'.toNat)) rest else none) with
          | some (token, behind) => go token behind
          | none => (readWord (rest.length + 1) (c :: rest)).bind fun (w, behind) => go (.word w) behind

end TemplateCheck.Shell
