import Mathlib.Tactic.IntervalCases
import TemplateCheck.Path

/-!
Lossy reading of UTF-8 gives back every text from its bytes, and where it replaces nothing, the bytes
are those of the text that it gives. So a path that a text names is shown as this text, the paths that
some text names are exactly those that are spelled by what they show, and paths that are shown alike
can only differ in what was replaced.
-/
namespace TemplateCheck

namespace Text

variable {n value : Nat} {rest : List UInt8}

theorem startCharacter_one (h : n < 0x80) :
    startCharacter (UInt8.ofNat n) = .inl (Char.ofNat n) := by
  interval_cases n <;> rfl

theorem startCharacter_two (h : 0xc2 ≤ n) (h' : n ≤ 0xdf) : startCharacter (UInt8.ofNat n) =
    .inr ⟨n % 0x20, 1, UInt8.ofNat 0x80, UInt8.ofNat 0xbf⟩ := by
  interval_cases n <;> rfl

theorem startCharacter_three (h : 0xe0 ≤ n) (h' : n ≤ 0xef) : startCharacter (UInt8.ofNat n) =
    .inr ⟨n % 0x10, 2, UInt8.ofNat (if n = 0xe0 then 0xa0 else 0x80),
      UInt8.ofNat (if n = 0xed then 0x9f else 0xbf)⟩ := by
  interval_cases n <;> rfl

theorem startCharacter_four (h : 0xf0 ≤ n) (h' : n ≤ 0xf4) : startCharacter (UInt8.ofNat n) =
    .inr ⟨n % 0x08, 3, UInt8.ofNat (if n = 0xf0 then 0x90 else 0x80),
      UInt8.ofNat (if n = 0xf4 then 0x8f else 0xbf)⟩ := by
  interval_cases n <;> rfl

theorem readLossy_of_complete {b : UInt8} {c : Char} (h : startCharacter b = .inl c) :
    readLossy none (b :: rest) = c :: readLossy none rest := by
  simp only [readLossy, h]

theorem readLossy_of_pending {b : UInt8} {p : Pending} (h : startCharacter b = .inr p) :
    readLossy none (b :: rest) = readLossy (some p) rest := by
  simp only [readLossy, h]

section Due

variable {due low high : Nat} (hlow : low ≤ n) (hhigh : n ≤ high) (hn : high < 0x100)
include hlow hhigh hn

theorem readLossy_due :
    readLossy (some ⟨value, due, UInt8.ofNat low, UInt8.ofNat high⟩) (UInt8.ofNat n :: rest) =
      if due ≤ 1 then Char.ofNat (value * 0x40 + n % 0x40) :: readLossy none rest
      else readLossy (some ⟨value * 0x40 + n % 0x40, due - 1, 0x80, 0xbf⟩) rest := by
  have hrange : UInt8.ofNat low ≤ UInt8.ofNat n ∧ UInt8.ofNat n ≤ UInt8.ofNat high := by
    simp only [UInt8.le_iff_toNat_le, UInt8.toNat_ofNat']
    omega
  have hbits : (UInt8.ofNat n).toNat % 0x40 = n % 0x40 := by
    simp only [UInt8.toNat_ofNat']
    omega
  simp only [readLossy, hrange, hbits, decide_true, Bool.and_self, if_true]

theorem readLossy_last :
    readLossy (some ⟨value, 1, UInt8.ofNat low, UInt8.ofNat high⟩) (UInt8.ofNat n :: rest) =
      Char.ofNat (value * 0x40 + n % 0x40) :: readLossy none rest := by
  rw [readLossy_due hlow hhigh hn, if_pos le_rfl]

theorem readLossy_more :
    readLossy (some ⟨value, due + 2, UInt8.ofNat low, UInt8.ofNat high⟩) (UInt8.ofNat n :: rest) =
      readLossy (some ⟨value * 0x40 + n % 0x40, due + 1, UInt8.ofNat 0x80, UInt8.ofNat 0xbf⟩) rest := by
  rw [readLossy_due hlow hhigh hn, if_neg (by omega)]
  rfl

end Due

theorem readLossy_utf8EncodeChar (c : Char) (rest : List UInt8) :
    readLossy none (String.utf8EncodeChar c ++ rest) = c :: readLossy none rest := by
  have hback : Char.ofNat c.toNat = c := Char.ofNat_toNat c
  have hvalid : c.toNat < 0xd800 ∨ 0xdfff < c.toNat ∧ c.toNat < 0x110000 := c.valid
  simp only [String.utf8EncodeChar, ← Char.toNat_val] at hback hvalid ⊢
  generalize c.val.toNat = v at hback hvalid ⊢
  -- by the number of bytes; each of them is in the range that the ones before leave for it
  by_cases h₁ : v ≤ 0x7f
  · rw [if_pos h₁, List.singleton_append, readLossy_of_complete (startCharacter_one (by omega)), hback]
  by_cases h₂ : v ≤ 0x7ff
  · have hvalue : (v / 64 % 32 + 192) % 0x20 * 0x40 + (v % 64 + 128) % 0x40 = v := by omega
    rw [if_neg h₁, if_pos h₂]
    simp only [List.cons_append, List.nil_append]
    rw [readLossy_of_pending (startCharacter_two (by omega) (by omega)),
      readLossy_last (by omega) (by omega) (by omega), hvalue, hback]
  by_cases h₃ : v ≤ 0xffff
  · have hvalue : ((v / 4096 % 16 + 224) % 0x10 * 0x40 + (v / 64 % 64 + 128) % 0x40) * 0x40 +
        (v % 64 + 128) % 0x40 = v := by omega
    rw [if_neg h₁, if_neg h₂, if_pos h₃]
    simp only [List.cons_append, List.nil_append]
    rw [readLossy_of_pending (startCharacter_three (by omega) (by omega)),
      readLossy_more (by split <;> omega) (by split <;> omega) (by split <;> omega),
      readLossy_last (by omega) (by omega) (by omega), hvalue, hback]
  · have hvalue : (((v / 262144 % 8 + 240) % 0x08 * 0x40 + (v / 4096 % 64 + 128) % 0x40) * 0x40 +
        (v / 64 % 64 + 128) % 0x40) * 0x40 + (v % 64 + 128) % 0x40 = v := by omega
    rw [if_neg h₁, if_neg h₂, if_neg h₃]
    simp only [List.cons_append, List.nil_append]
    rw [readLossy_of_pending (startCharacter_four (by omega) (by omega)),
      readLossy_more (by split <;> omega) (by split <;> omega) (by split <;> omega),
      readLossy_more (by omega) (by omega) (by omega),
      readLossy_last (by omega) (by omega) (by omega), hvalue, hback]

theorem ofBytesLossy_utf8 (t : Text) : ofBytesLossy (t.flatMap String.utf8EncodeChar) = t := by
  unfold ofBytesLossy
  induction t with
  | nil => rfl
  | cons c t ih => rw [List.flatMap_cons, readLossy_utf8EncodeChar, ih]

theorem startCharacter_none (h : 0x80 ≤ n) (h' : n < 0xc2 ∨ 0xf4 < n) (hn : n < 0x100) :
    startCharacter (UInt8.ofNat n) = .inl replacement := by
  interval_cases n <;> first | rfl | omega

/-- Where nothing is replaced, the byte that is due is there. -/
theorem exists_due {due low high : Nat} {bytes : List UInt8} (hlow : low < 0x100)
    (hhigh : high < 0x100)
    (h : replacement ∉ readLossy (some ⟨value, due, UInt8.ofNat low, UInt8.ofNat high⟩) bytes) :
    ∃ n rest, low ≤ n ∧ n ≤ high ∧ bytes = UInt8.ofNat n :: rest := by
  cases bytes with
  | nil => simp [readLossy] at h
  | cons b rest =>
    by_cases hb : UInt8.ofNat low ≤ b ∧ b ≤ UInt8.ofNat high
    · refine ⟨b.toNat, rest, ?_, ?_, by rw [UInt8.ofNat_toNat]⟩ <;>
        simp only [UInt8.le_iff_toNat_le, UInt8.toNat_ofNat'] at hb <;> omega
    · have hout : (decide (UInt8.ofNat low ≤ b) && decide (b ≤ UInt8.ofNat high)) = false := by
        simpa [Bool.and_eq_false_iff, not_and_or] using hb
      rw [readLossy, hout] at h
      cases hstart : startCharacter b <;> simp [hstart] at h

theorem utf8EncodeChar_ofNat {v : Nat} (h : v.isValidChar) : String.utf8EncodeChar (Char.ofNat v) =
    if v ≤ 0x7f then [UInt8.ofNat v]
    else if v ≤ 0x7ff then [UInt8.ofNat (v / 64 % 32 + 192), UInt8.ofNat (v % 64 + 128)]
    else if v ≤ 0xffff then
      [UInt8.ofNat (v / 4096 % 16 + 224), UInt8.ofNat (v / 64 % 64 + 128), UInt8.ofNat (v % 64 + 128)]
    else [UInt8.ofNat (v / 262144 % 8 + 240), UInt8.ofNat (v / 4096 % 64 + 128),
      UInt8.ofNat (v / 64 % 64 + 128), UInt8.ofNat (v % 64 + 128)] := by
  have hv : (Char.ofNat v).val.toNat = v := by
    rw [Char.ofNat, dif_pos h]
    rfl
  simp only [String.utf8EncodeChar, hv]

/-- Where nothing is replaced, the bytes start with those of a character. -/
theorem exists_character {b : UInt8} (h : replacement ∉ readLossy none (b :: rest)) :
    ∃ c others, b :: rest = String.utf8EncodeChar c ++ others := by
  have hn := b.toNat_lt
  have hb : b = UInt8.ofNat b.toNat := UInt8.ofNat_toNat.symm
  generalize b.toNat = n at hn hb
  subst hb
  -- by the number of bytes; the ones that are due are in the ranges that the ones before leave
  by_cases h₁ : n < 0x80
  · refine ⟨Char.ofNat n, rest, ?_⟩
    rw [utf8EncodeChar_ofNat (.inl (by omega)), if_pos (by omega)]
    rfl
  by_cases h₂ : n < 0xc2 ∨ 0xf4 < n
  · rw [readLossy_of_complete (startCharacter_none (by omega) h₂ hn)] at h
    simp at h
  by_cases h₃ : n ≤ 0xdf
  · rw [readLossy_of_pending (startCharacter_two (by omega) h₃)] at h
    obtain ⟨m, rest, hm, hm', rfl⟩ := exists_due (by omega) (by omega) h
    obtain ⟨v, hv⟩ : ∃ v, v = n % 32 * 64 + m % 64 := ⟨_, rfl⟩
    refine ⟨Char.ofNat v, rest, ?_⟩
    rw [utf8EncodeChar_ofNat (.inl (by omega)), if_neg (by omega), if_pos (by omega),
      show v / 64 % 32 + 192 = n by omega, show v % 64 + 128 = m by omega]
    rfl
  by_cases h₄ : n ≤ 0xef
  · rw [readLossy_of_pending (startCharacter_three (by omega) h₄)] at h
    obtain ⟨m, rest, hm, hm', rfl⟩ := exists_due (by split <;> omega) (by split <;> omega) h
    rw [readLossy_more hm hm' (by split <;> omega)] at h
    obtain ⟨k, rest, hk, hk', rfl⟩ := exists_due (by omega) (by omega) h
    have hlow : 0x80 ≤ m ∧ (n = 0xe0 → 0xa0 ≤ m) := by split at hm <;> omega
    have hhigh : m ≤ 0xbf ∧ (n = 0xed → m ≤ 0x9f) := by split at hm' <;> omega
    obtain ⟨v, hv⟩ : ∃ v, v = (n % 16 * 64 + m % 64) * 64 + k % 64 := ⟨_, rfl⟩
    have hvalid : v.isValidChar := by
      unfold Nat.isValidChar
      omega
    refine ⟨Char.ofNat v, rest, ?_⟩
    rw [utf8EncodeChar_ofNat hvalid, if_neg (by omega), if_neg (by omega), if_pos (by omega),
      show v / 4096 % 16 + 224 = n by omega, show v / 64 % 64 + 128 = m by omega,
      show v % 64 + 128 = k by omega]
    rfl
  · rw [readLossy_of_pending (startCharacter_four (by omega) (by omega))] at h
    obtain ⟨m, rest, hm, hm', rfl⟩ := exists_due (by split <;> omega) (by split <;> omega) h
    rw [readLossy_more hm hm' (by split <;> omega)] at h
    obtain ⟨k, rest, hk, hk', rfl⟩ := exists_due (by omega) (by omega) h
    rw [readLossy_more hk hk' (by omega)] at h
    obtain ⟨l, rest, hl, hl', rfl⟩ := exists_due (by omega) (by omega) h
    have hlow : 0x80 ≤ m ∧ (n = 0xf0 → 0x90 ≤ m) := by split at hm <;> omega
    have hhigh : m ≤ 0xbf ∧ (n = 0xf4 → m ≤ 0x8f) := by split at hm' <;> omega
    obtain ⟨v, hv⟩ : ∃ v, v = ((n % 8 * 64 + m % 64) * 64 + k % 64) * 64 + l % 64 := ⟨_, rfl⟩
    have hvalid : v.isValidChar := by
      unfold Nat.isValidChar
      omega
    refine ⟨Char.ofNat v, rest, ?_⟩
    rw [utf8EncodeChar_ofNat hvalid, if_neg (by omega), if_neg (by omega), if_neg (by omega),
      show v / 262144 % 8 + 240 = n by omega, show v / 4096 % 64 + 128 = m by omega,
      show v / 64 % 64 + 128 = k by omega, show v % 64 + 128 = l by omega]
    rfl

/-- Where nothing is replaced, the bytes are those of the text. -/
theorem utf8_ofBytesLossy {bytes : List UInt8} (h : replacement ∉ ofBytesLossy bytes) :
    (ofBytesLossy bytes).flatMap String.utf8EncodeChar = bytes := by
  unfold ofBytesLossy at h ⊢
  induction hlength : bytes.length using Nat.strong_induction_on generalizing bytes with
  | _ length ih =>
    cases bytes with
    | nil => rfl
    | cons b rest =>
      obtain ⟨c, others, hbytes⟩ := exists_character h
      rw [hbytes, readLossy_utf8EncodeChar] at h ⊢
      have hshorter : others.length < length := by
        have hpos := String.length_utf8EncodeChar c ▸ Char.utf8Size_pos c
        rw [← hlength, hbytes, List.length_append]
        omega
      rw [List.flatMap_cons, ih _ hshorter (fun hmem => h (List.mem_cons_of_mem _ hmem)) rfl]

theorem toNat_ofNat_octet (n : UInt8) : (Char.ofNat n.toNat).toNat = n.toNat := by
  have hlt := n.toNat_lt
  have hvalid : n.toNat.isValidChar := .inl (by omega)
  rw [Char.ofNat, dif_pos hvalid]
  rfl

theorem octet_ofNat (n : UInt8) : octet (Char.ofNat n.toNat) = n := by
  rw [octet, toNat_ofNat_octet, if_pos n.toNat_lt, UInt8.ofNat_toNat]

theorem octetBytes_octets (b : List UInt8) : octetBytes (octets b) = b := by
  rw [octetBytes, octets, List.map_map]
  exact (List.map_congr_left fun n _ => octet_ofNat n).trans (List.map_id b)

theorem octets_octetBytes {t : Text} (h : 0xff ∉ octetBytes t) : octets (octetBytes t) = t := by
  have hback : ∀ c ∈ t, Char.ofNat (octet c).toNat = c := by
    intro c hc
    have hne : octet c ≠ 0xff := fun heq => h (heq ▸ List.mem_map_of_mem hc)
    by_cases hlt : c.toNat < 0x100
    · rw [octet, if_pos hlt, UInt8.toNat_ofNat', Nat.mod_eq_of_lt hlt, Char.ofNat_toNat]
    · rw [octet, if_neg hlt] at hne
      exact absurd rfl hne
  rw [octets, octetBytes, List.map_map]
  exact (List.map_congr_left hback).trans (List.map_id t)

theorem not_mem_utf8 (t : Text) : 0xff ∉ t.flatMap String.utf8EncodeChar := by
  intro h
  obtain ⟨c, -, hc⟩ := List.mem_flatMap.1 h
  simp only [String.utf8EncodeChar] at hc
  generalize c.val.toNat = v at hc
  split_ifs at hc <;>
    simp only [List.mem_cons, List.not_mem_nil, or_false, ← UInt8.toNat_inj, UInt8.toNat_ofNat',
      UInt8.reduceToNat] at hc <;> omega

theorem mem_of_mem_spelling {c : Char} {t : Text} (hc : c.toNat < 0x80) (h : c ∈ spelling t) :
    c ∈ t := by
  simp only [spelling, octets, List.mem_map, List.mem_flatMap] at h
  obtain ⟨n, ⟨d, hd, hn⟩, rfl⟩ := h
  rw [toNat_ofNat_octet] at hc
  have hvalue : n.toNat = d.toNat := by
    have hd' : d.toNat = d.val.toNat := rfl
    rw [hd']
    simp only [String.utf8EncodeChar] at hn
    generalize d.val.toNat = v at hn ⊢
    split_ifs at hn <;> simp only [List.mem_cons, List.not_mem_nil, or_false] at hn
    · rw [hn, UInt8.toNat_ofNat']
      omega
    · rcases hn with rfl | rfl <;> simp only [UInt8.toNat_ofNat'] at hc ⊢ <;> omega
    · rcases hn with rfl | rfl | rfl <;> simp only [UInt8.toNat_ofNat'] at hc ⊢ <;> omega
    · rcases hn with rfl | rfl | rfl | rfl <;> simp only [UInt8.toNat_ofNat'] at hc ⊢ <;> omega
  rwa [hvalue, Char.ofNat_toNat]

theorem spelling_injective : Function.Injective spelling := by
  intro s t h
  have hback (u : Text) : ofBytesLossy (octetBytes (spelling u)) = u := by
    rw [spelling, octetBytes_octets, ofBytesLossy_utf8]
  rw [← hback s, h, hback]

end Text

namespace Path

variable {p : Path}

@[simp] theorem display_ofText (t : Text) : (ofText t).display = t := by
  simp only [display, ofText, Text.spelling, Text.octetBytes_octets, Text.ofBytesLossy_utf8]

theorem ofText_display (h : Text.replacement ∉ p.display) : ofText p.display = p := by
  have hbytes := Text.utf8_ofBytesLossy h
  have hout : 0xff ∉ Text.octetBytes p.text := hbytes ▸ Text.not_mem_utf8 _
  rw [ofText, Text.spelling, display, hbytes, Text.octets_octetBytes hout]

/-- Paths that are shown alike are the same, if nothing in them is replaced. -/
theorem eq_of_display {q : Path} (h : p.display = q.display) (hp : Text.replacement ∉ p.display) :
    p = q := by
  rw [← ofText_display hp, h, ofText_display (h ▸ hp)]

theorem shownExtension_eq_iff {t : Text} (h : Text.replacement ∉ t) :
    p.shownExtension = some t ↔ p.extension = some (Text.spelling t) := by
  simp only [shownExtension, Option.map_eq_some_iff]
  constructor
  · rintro ⟨bytes, he, rfl⟩
    rw [he]
    exact congrArg some (Path.mk.inj (ofText_display h)).symm
  · intro he
    exact ⟨_, he, display_ofText t⟩

theorem isText_iff : p.isText ↔ ∃ t, p = ofText t := by
  simp only [isText, beq_iff_eq]
  constructor
  · intro h
    exact ⟨p.display, by rw [ofText, h]⟩
  · rintro ⟨t, rfl⟩
    rw [display_ofText]
    rfl

end Path
end TemplateCheck
