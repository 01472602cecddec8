import TemplateCheck.Text

/-!
Numbers, truth values and dates of a TOML document. No setting has such a value, so it is enough to
tell the written forms from anything else.
-/
namespace TemplateCheck.Toml

def isGrouped (digit : Char → Bool) (t : Text) : Bool :=
  (t.splitOn '_').all fun group => !group.isEmpty && group.all digit

def dropSign : Text → Text
  | '+' :: rest => rest
  | '-' :: rest => rest
  | t => t

def isPlainInteger (t : Text) : Bool :=
  isGrouped Char.isDigit t && (t.head? != some '0' || t.length == 1)

def isInteger (t : Text) : Bool :=
  match t with
  | '0' :: 'x' :: rest => isGrouped (fun c => (Text.hexDigit? c).isSome) rest
  | '0' :: 'o' :: rest => isGrouped (fun c => '0' ≤ c && c ≤ '7') rest
  | '0' :: 'b' :: rest => isGrouped (fun c => c == '0' || c == '1') rest
  | t => isPlainInteger (dropSign t)

def isMantissa (t : Text) : Bool :=
  match t.splitOn '.' with
  | [whole] => isPlainInteger whole
  | [whole, part] => isPlainInteger whole && isGrouped Char.isDigit part
  | _ => false

def isFloat (t : Text) : Bool :=
  let body := dropSign t
  if body == "inf".toList || body == "nan".toList then true
  else match body.splitOn 'e' with
    | [mantissa] => match mantissa.splitOn 'E' with
      | [mantissa] => isMantissa mantissa
      | [mantissa, exponent] => isMantissa mantissa && isGrouped Char.isDigit (dropSign exponent)
      | _ => false
    | [mantissa, exponent] => isMantissa mantissa && isGrouped Char.isDigit (dropSign exponent)
    | _ => false

def isField (digits low high : Nat) (t : Text) : Bool :=
  t.length == digits && t.all Char.isDigit && low ≤ Text.digitsValue t && Text.digitsValue t ≤ high

def isLeapYear (y : Nat) : Bool := y % 4 == 0 && (y % 100 != 0 || y % 400 == 0)

def daysIn (year month : Nat) : Nat :=
  if month = 2 then (if isLeapYear year then 29 else 28)
  else if month ∈ [4, 6, 9, 11] then 30
  else 31

def isDate (t : Text) : Bool :=
  match t.splitOn '-' with
  | [year, month, day] =>
    isField 4 0 9999 year && isField 2 1 12 month &&
      isField 2 1 (daysIn (Text.digitsValue year) (Text.digitsValue month)) day
  | _ => false

def isSeconds (t : Text) : Bool :=
  match t.splitOn '.' with
  | [whole] => isField 2 0 60 whole
  | [whole, part] => isField 2 0 60 whole && !part.isEmpty && part.all Char.isDigit
  | _ => false

def isTime (t : Text) : Bool :=
  match t.splitOn ':' with
  | [hour, minute] => isField 2 0 23 hour && isField 2 0 59 minute
  | [hour, minute, second] => isField 2 0 23 hour && isField 2 0 59 minute && isSeconds second
  | _ => false

def isOffsetTime (t : Text) : Bool :=
  match t.reverse with
  | 'Z' :: before => isTime before.reverse
  | 'z' :: before => isTime before.reverse
  | m :: n :: ':' :: h :: g :: sign :: before =>
    (sign == '+' || sign == '-') && isField 2 0 23 [g, h] && isField 2 0 59 [n, m] &&
      isTime before.reverse
  | _ => false

def isMoment (t : Text) : Bool :=
  isDate t || isTime t ||
    (isDate (t.take 10) && (match t.drop 10 with
      | c :: time => (c == 'T' || c == 't' || c == ' ') && (isTime time || isOffsetTime time)
      | [] => false))

def isScalar (t : Text) : Bool :=
  t == "true".toList || t == "false".toList || isInteger t || isFloat t || isMoment t

def isScalarChar (c : Char) : Bool :=
  c.isAlphanum || c == '+' || c == '-' || c == '_' || c == '.' || c == ':'

/-- The text of a scalar and what follows it. One blank may stand between a date and a time. -/
def takeScalar (t : Text) : Text × Text :=
  let first := t.takeWhile isScalarChar
  let behind := t.dropWhile isScalarChar
  match behind with
  | ' ' :: c :: rest =>
    if isDate first && c.isDigit then
      (first ++ ' ' :: (c :: rest).takeWhile isScalarChar, (c :: rest).dropWhile isScalarChar)
    else (first, behind)
  | _ => (first, behind)

end TemplateCheck.Toml
