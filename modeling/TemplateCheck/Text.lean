/-!
Text as a list of characters.

Every part of the checker that looks inside a text works on its characters, so a text is the list of
them and the laws of lists apply directly. String literals stand for their characters.
-/
namespace TemplateCheck

abbrev Text := List Char

instance : Coe String Text := ⟨String.toList⟩

namespace Text

def blank (c : Char) : Bool :=
  let n := c.toNat
  (0x09 ≤ n && n ≤ 0x0d) || n == 0x20 || n == 0x85 || n == 0xa0 || n == 0x1680 ||
  (0x2000 ≤ n && n ≤ 0x200a) || n == 0x2028 || n == 0x2029 || n == 0x202f || n == 0x205f ||
  n == 0x3000

def isBlank (t : Text) : Bool := t.all blank

def trimStart (t : Text) : Text := t.dropWhile blank

def trimEnd (t : Text) : Text := (t.reverse.dropWhile blank).reverse

def trim (t : Text) : Text := trimEnd (trimStart t)

def lines (t : Text) : List Text := t.splitOn '\n'

def join (separator : Text) (parts : List Text) : Text := List.intercalate separator parts

def decimal (n : Nat) : Text := Nat.toDigits 10 n

/-- Pads on the left with blanks, so that numbers of a column end at the same place. -/
def rightAligned (width : Nat) (t : Text) : Text := List.replicate (width - t.length) ' ' ++ t

def digitsValue (ds : Text) : Nat := ds.foldl (fun n c => 10 * n + (c.toNat - '0'.toNat)) 0

def hexDigit? (c : Char) : Option Nat :=
  if c.isDigit then some (c.toNat - '0'.toNat)
  else if 'a' ≤ c && c ≤ 'f' then some (c.toNat - 'a'.toNat + 10)
  else if 'A' ≤ c && c ≤ 'F' then some (c.toNat - 'A'.toNat + 10)
  else none

def maxCount : Nat := 18446744073709551615

/-- An unsigned count: ASCII digits with an optional plus sign, at most `maxCount`. -/
def readCount (t : Text) : Option Nat :=
  let ds := match t with
    | '+' :: rest => rest
    | _ => t
  if ds.isEmpty || !ds.all Char.isDigit then none
  else if digitsValue ds ≤ maxCount then some (digitsValue ds)
  else none

/-- `replaceFrom needle by skip t` drops `skip` characters, then replaces each occurrence of `needle`,
leftmost first and without overlap. -/
def replaceFrom (needle replacement : Text) : Nat → Text → Text
  | _, [] => []
  | skip + 1, _ :: rest => replaceFrom needle replacement skip rest
  | 0, c :: rest =>
    if needle.isPrefixOf (c :: rest) then
      replacement ++ replaceFrom needle replacement (needle.length - 1) rest
    else c :: replaceFrom needle replacement 0 rest

def replace (needle replacement t : Text) : Text := replaceFrom needle replacement 0 t

def includes (needle : Text) : Text → Bool
  | [] => needle.isEmpty
  | c :: rest => needle.isPrefixOf (c :: rest) || includes needle rest

def bytes (t : Text) : ByteArray := (String.ofList t).toUTF8

def ofBytes? (b : ByteArray) : Option Text := b.utf8Decode?.map Array.toList

def octets (b : List UInt8) : Text := b.map fun n => Char.ofNat n.toNat

/-- The byte that a character stands for. The other characters count as a byte that is in no text. -/
def octet (c : Char) : UInt8 := if c.toNat < 0x100 then UInt8.ofNat c.toNat else 0xff

def octetBytes (t : Text) : List UInt8 := t.map octet

def spelling (t : Text) : Text := octets (t.flatMap String.utf8EncodeChar)

/-- Order by code points, which is also the order of the bytes where each character stands for one. -/
def compare : Text → Text → Ordering
  | [], [] => .eq
  | [], _ :: _ => .lt
  | _ :: _, [] => .gt
  | a :: s, b :: t =>
    if a.toNat < b.toNat then .lt else if b.toNat < a.toNat then .gt else compare s t

end Text
end TemplateCheck
