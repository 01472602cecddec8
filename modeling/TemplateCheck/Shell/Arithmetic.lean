import TemplateCheck.Shell.Command

/-!
Arithmetic of a shell script: whole numbers, variables, the four operations and the remainder.
-/
namespace TemplateCheck.Shell.Arithmetic

inductive Symbol where
  | number (n : Int)
  | name (name : Text)
  | sign (c : Char)
  deriving DecidableEq, Repr

def isLetter (c : Char) : Bool := c.isAlphanum || c == '_'

def symbols : Nat → Text → List Symbol
  | n + 1, c :: rest =>
    if c == ' ' || c == '\t' || c == '\n' || c == '$' then symbols n rest
    else if c.isDigit then
      .number (Text.digitsValue (c :: rest.takeWhile Char.isDigit)) ::
        symbols n (rest.dropWhile Char.isDigit)
    else if isLetter c then
      .name (c :: rest.takeWhile isLetter) :: symbols n (rest.dropWhile isLetter)
    else .sign c :: symbols n rest
  | _, _ => []

def valueOf (t : Text) : Int :=
  match Text.trim t with
  | '-' :: digits => - (Text.digitsValue (digits.takeWhile Char.isDigit) : Int)
  | digits => Text.digitsValue (digits.takeWhile Char.isDigit)

mutual

def readAtom (lookup : Text → Text) : Nat → List Symbol → Option (Int × List Symbol)
  | 0, _ => none
  | n + 1, ss =>
    match ss with
    | .number k :: rest => some (k, rest)
    | .name v :: rest => some (valueOf (lookup v), rest)
    | .sign '-' :: rest => (readAtom lookup n rest).map fun (k, rest) => (-k, rest)
    | .sign '+' :: rest => readAtom lookup n rest
    | .sign '(' :: rest =>
      match readSum lookup n rest with
      | some (k, .sign ')' :: rest) => some (k, rest)
      | _ => none
    | _ => none

def readSum (lookup : Text → Text) : Nat → List Symbol → Option (Int × List Symbol)
  | 0, _ => none
  | n + 1, ss => (readProduct lookup n ss).bind fun (k, rest) => moreSum lookup n k rest

def moreSum (lookup : Text → Text) : Nat → Int → List Symbol → Option (Int × List Symbol)
  | 0, _, _ => none
  | n + 1, k, ss =>
    match ss with
    | .sign '+' :: rest => (readProduct lookup n rest).bind fun (m, rest) => moreSum lookup n (k + m) rest
    | .sign '-' :: rest => (readProduct lookup n rest).bind fun (m, rest) => moreSum lookup n (k - m) rest
    | ss => some (k, ss)

def readProduct (lookup : Text → Text) : Nat → List Symbol → Option (Int × List Symbol)
  | 0, _ => none
  | n + 1, ss => (readAtom lookup n ss).bind fun (k, rest) => moreProduct lookup n k rest

def moreProduct (lookup : Text → Text) : Nat → Int → List Symbol → Option (Int × List Symbol)
  | 0, _, _ => none
  | n + 1, k, ss =>
    match ss with
    | .sign '*' :: rest => (readAtom lookup n rest).bind fun (m, rest) => moreProduct lookup n (k * m) rest
    | .sign '/' :: rest =>
      (readAtom lookup n rest).bind fun (m, rest) =>
        if m = 0 then none else moreProduct lookup n (k.tdiv m) rest
    | .sign '%' :: rest =>
      (readAtom lookup n rest).bind fun (m, rest) =>
        if m = 0 then none else moreProduct lookup n (k.tmod m) rest
    | ss => some (k, ss)

end

def decimalText (k : Int) : Text :=
  if k < 0 then '-' :: Text.decimal k.natAbs else Text.decimal k.natAbs

def evaluate (lookup : Text → Text) (formula : Text) : Option Text :=
  let ss := symbols formula.length formula
  match readSum lookup (6 * ss.length + 6) ss with
  | some (k, []) => some (decimalText k)
  | _ => none

end TemplateCheck.Shell.Arithmetic
