import TemplateCheck.Text

/-!
Lossy reading of UTF-8: what is not a character becomes U+FFFD, once for each longest start of a
character that the bytes offer.
-/
namespace TemplateCheck.Text

def secondByteRange (b : UInt8) : UInt8 × UInt8 :=
  if b == 0xe0 then (0xa0, 0xbf)
  else if b == 0xed then (0x80, 0x9f)
  else if b == 0xf0 then (0x90, 0xbf)
  else if b == 0xf4 then (0x80, 0x8f)
  else (0x80, 0xbf)

def continuationCount (b : UInt8) : Option Nat :=
  if b < 0x80 then some 0
  else if 0xc2 ≤ b && b ≤ 0xdf then some 1
  else if 0xe0 ≤ b && b ≤ 0xef then some 2
  else if 0xf0 ≤ b && b ≤ 0xf4 then some 3
  else none

def firstByteValue (b : UInt8) (following : Nat) : Nat :=
  match following with
  | 0 => b.toNat
  | 1 => b.toNat % 0x20
  | 2 => b.toNat % 0x10
  | _ => b.toNat % 0x08

/-- A character that is being read: its value so far, how many bytes are still due, and the range
of the next one. -/
structure Pending where
  value : Nat
  due : Nat
  low : UInt8
  high : UInt8
  deriving Repr

def replacement : Char := '\ufffd'

/-- Starts a character at `b`: either it is complete, or bytes are due, or `b` starts none. -/
def startCharacter (b : UInt8) : Char ⊕ Pending :=
  match continuationCount b with
  | none => .inl replacement
  | some 0 => .inl (Char.ofNat b.toNat)
  | some (n + 1) =>
    .inr ⟨firstByteValue b (n + 1), n + 1, (secondByteRange b).1, (secondByteRange b).2⟩

def readLossy : Option Pending → List UInt8 → Text
  | none, [] => []
  | some _, [] => [replacement]
  | none, b :: rest =>
    match startCharacter b with
    | .inl c => c :: readLossy none rest
    | .inr p => readLossy (some p) rest
  | some p, b :: rest =>
    if p.low ≤ b && b ≤ p.high then
      let value := p.value * 0x40 + b.toNat % 0x40
      if p.due ≤ 1 then Char.ofNat value :: readLossy none rest
      else readLossy (some ⟨value, p.due - 1, 0x80, 0xbf⟩) rest
    else
      match startCharacter b with
      | .inl c => replacement :: c :: readLossy none rest
      | .inr q => replacement :: readLossy (some q) rest

def ofBytesLossy (b : List UInt8) : Text := readLossy none b

end TemplateCheck.Text
