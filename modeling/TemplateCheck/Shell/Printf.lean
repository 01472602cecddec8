import TemplateCheck.Shell.Arithmetic

/-!
Formatted output as the `printf` and `echo` commands make it.
-/
namespace TemplateCheck.Shell.Printf

def isOctal (c : Char) : Bool := '0' ≤ c && c ≤ '7'

/-- The character of an escape, and how many characters it has behind the backslash. -/
def escape? (t : Text) : Option (Char × Nat) :=
  match t with
  | 'n' :: _ => some ('\n', 1)
  | 'r' :: _ => some ('\r', 1)
  | 't' :: _ => some ('\t', 1)
  | 'a' :: _ => some ('\x07', 1)
  | 'b' :: _ => some ('\x08', 1)
  | 'f' :: _ => some ('\x0c', 1)
  | 'v' :: _ => some ('\x0b', 1)
  | '\\' :: _ => some ('\\', 1)
  | '"' :: _ => some ('"', 1)
  | t =>
    let digits := (t.take 3).takeWhile isOctal
    if digits.isEmpty then none
    else
      let n := digits.foldl (fun n c => 8 * n + (c.toNat - '0'.toNat)) 0
      some (Char.ofNat (n % 256), digits.length)

def unescapeFrom : Nat → Text → Text
  | _, [] => []
  | skip + 1, _ :: rest => unescapeFrom skip rest
  | 0, c :: rest =>
    if c == '\\' then
      match escape? rest with
      | some (e, length) => e :: unescapeFrom length rest
      | none => c :: unescapeFrom 0 rest
    else c :: unescapeFrom 0 rest

def unescape (t : Text) : Text := unescapeFrom 0 t

def convert (kind : Char) (arg : Text) : Option Text :=
  match kind with
  | 's' => some arg
  | 'b' => some (unescape arg)
  | 'd' => some (Arithmetic.decimalText (Arithmetic.valueOf arg))
  | 'i' => some (Arithmetic.decimalText (Arithmetic.valueOf arg))
  | 'c' => some (arg.take 1)
  | _ => none

def formatOnce : Nat → List Text → Text → Text × List Text
  | _, args, [] => ([], args)
  | skip + 1, args, _ :: rest => formatOnce skip args rest
  | 0, args, c :: rest =>
    let literal := fun (t : Text) (skip : Nat) =>
      let (out, left) := formatOnce skip args rest
      (t ++ out, left)
    match c, rest with
    | '\\', _ =>
      match escape? rest with
      | some (e, length) => literal [e] length
      | none => literal [c] 0
    | '%', '%' :: _ => literal ['%'] 1
    | '%', kind :: _ =>
      match convert kind (args.headD []) with
      | some t =>
        let (out, left) := formatOnce 1 (args.drop 1) rest
        (t ++ out, left)
      | none => literal [c] 0
    | _, _ => literal [c] 0

def formatAll (format : Text) : Nat → List Text → Text
  | 0, _ => []
  | n + 1, args =>
    let (out, left) := formatOnce 0 args format
    if left.isEmpty || left.length = args.length then out else out ++ formatAll format n left

def printf (format : Text) (args : List Text) : Text := formatAll format (args.length + 1) args

end TemplateCheck.Shell.Printf
