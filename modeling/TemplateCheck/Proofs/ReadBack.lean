import Mathlib.Data.List.Infix
import TemplateCheck.Bootstrap.Config
import TemplateCheck.Proofs.Matching
import TemplateCheck.Proofs.Verdict

/-!
A tool prints a failure as its message, ` in `, the file, ` on line ` and the number of the line.
Both separators may also stand in the message, and parts of them at the seams. The default patterns
still find the message, the file and the line that were printed: behind the separator that was
printed nothing else looks like the end of a failure, and no proper part of the file is followed by
what looks like the number of a line.
-/
namespace TemplateCheck.FailurePattern

open Expr

def beforeFile : Text := " in "

/-- What is printed between the file and the number of the line. -/
def beforeLine : Text := " on line "

theorem beforeFile_eq : beforeFile = [' ', 'i', 'n', ' '] := rfl

theorem beforeLine_eq : beforeLine = [' ', 'o', 'n', ' ', 'l', 'i', 'n', 'e', ' '] := rfl

/-- A file that can be told apart in a printed failure: an absolute path on one line, without ` in `
and without ` on line ` in front of a digit. A digit is one of any script, as in the patterns. -/
structure Separable (f : Text) : Prop where
  absolute : f.head? = some '/'
  oneLine : '\n' ∉ f
  noSeparator : ¬beforeFile <:+: f
  noNumber : ∀ d, Text.isDecimalDigit d → ¬(beforeLine ++ [d]) <:+: f

/-- Digits, and behind them the end of the text or of the line. -/
structure Numbered (digits rest : Text) : Prop where
  nonempty : digits ≠ []
  digit : ∀ c ∈ digits, c.isDigit
  ends : ∀ c ∈ rest.head?, c = '\n'

/-- The end of a printed failure, from the first separator on. -/
def place (f digits rest : Text) : Text := beforeFile ++ (f ++ (beforeLine ++ (digits ++ rest)))

def Located (t : Text) : Prop :=
  ∃ w d z, '\n' ∉ w ∧ Text.isDecimalDigit d ∧ t = beforeFile ++ (w ++ (beforeLine ++ d :: z))

variable {f digits rest m t x y v : Text} {groups result : List (Text × Text)}

theorem Numbered.no_blank (h : Numbered digits rest) (hx : '\n' ∉ x) :
    digits ++ rest ≠ x ++ ' ' :: y := by
  intro he
  rcases List.append_eq_append_iff.1 he with ⟨a, rfl, hrest⟩ | ⟨a, hdigits, hrest⟩
  · cases a with
    | nil => exact absurd (h.ends ' ' (by simp [hrest])) (by decide)
    | cons c a =>
      obtain rfl := h.ends c (by simp [hrest])
      simp at hx
  · cases a with
    | nil =>
      obtain rfl : ' ' :: y = rest := hrest
      exact absurd (h.ends ' ' (by simp)) (by decide)
    | cons c a =>
      obtain ⟨rfl, -⟩ := List.cons.inj hrest
      exact absurd (h.digit ' ' (by simp [hdigits])) (by decide)

theorem Numbered.blank_before (h : Numbered digits rest) {c : Char} (hx : '\n' ∉ x)
    (he : beforeLine ++ (digits ++ rest) = ' ' :: (x ++ ' ' :: c :: y)) : c ≠ 'i' ∧ c ≠ 'o' := by
  simp [beforeLine_eq, List.cons_eq_append_iff] at he
  obtain ⟨_, rfl, ⟨-, rfl, -⟩ | ⟨_, rfl, ⟨-, ⟨hnil, -⟩ | ⟨ds, hdigits, -⟩⟩ |
    ⟨x', rfl, hblank⟩⟩⟩ := he
  · decide
  · exact absurd hnil h.nonempty
  · have hc : c.isDigit := h.digit c (by simp [hdigits])
    constructor <;> rintro rfl <;> exact absurd hc (by decide)
  · exact absurd hblank (h.no_blank (by simpa using hx))

theorem Separable.exists_cons (hf : Separable f) : ∃ f', f = '/' :: f' := by
  cases f with
  | nil => exact absurd hf.absolute (by simp)
  | cons c f' => exact ⟨f', by simpa using hf.absolute⟩

/-- Behind the separator that was printed, nothing looks like the end of a printed failure. -/
theorem not_located_later (hf : Separable f) (h : Numbered digits rest) (hne : x ≠ [])
    (hx : '\n' ∉ x) (he : place f digits rest = x ++ v) : ¬Located v := by
  rintro ⟨w, d, z, hw, -, rfl⟩
  obtain ⟨f', rfl⟩ := hf.exists_cons
  -- no separator begins in the one that was printed, for a slash follows it
  obtain ⟨x', rfl, hlater⟩ : ∃ x', x = beforeFile ++ '/' :: x' ∧
      f' ++ (beforeLine ++ (digits ++ rest)) =
        x' ++ (beforeFile ++ (w ++ (beforeLine ++ d :: z))) := by
    simp only [place, beforeFile_eq] at he ⊢
    simpa [List.cons_eq_append_iff, hne] using he
  have hx' : '\n' ∉ x' := by
    intro hmem
    exact hx (by simp [hmem])
  rcases List.append_eq_append_iff.1 hlater with ⟨a, rfl, hline⟩ | ⟨a, rfl, hfile⟩
  · -- it would begin where the line is told
    cases a with
    | nil => simp [beforeFile_eq, beforeLine_eq] at hline
    | cons c a =>
      obtain rfl : ' ' = c := by simpa [beforeLine_eq] using congrArg List.head? hline
      have ha : '\n' ∉ a := by
        intro hmem
        exact hx' (by simp [hmem])
      exact (h.blank_before ha hline).1 rfl
  · -- it would begin in the file and, if it does not end there, share a blank with what follows
    rcases List.append_eq_append_iff.1 hfile with ⟨b, rfl, -⟩ | ⟨b, hb, hline⟩
    · exact hf.noSeparator ⟨'/' :: x', b, by simp⟩
    · simp [beforeFile_eq, List.cons_eq_append_iff] at hb
      obtain ⟨-, rfl⟩ | ⟨_, rfl, ⟨-, rfl⟩ | ⟨_, rfl, ⟨-, rfl⟩ | ⟨_, rfl, ⟨-, rfl⟩ |
        ⟨rfl, -⟩⟩⟩⟩ := hb
      · simp [beforeLine_eq] at hline
      · simp [beforeLine_eq] at hline
      · simp [beforeLine_eq] at hline
      · exact (h.blank_before hw hline).2 rfl
      · exact hf.noSeparator ⟨'/' :: x', [], by simp [beforeFile_eq]⟩

theorem not_mem_of_any {d : Char} (ht : t.any Text.isDecimalDigit = false)
    (hd : Text.isDecimalDigit d) : d ∉ t := by
  intro hmem
  exact List.any_eq_false.1 ht d hmem hd

theorem beforeLine_digitless : beforeLine.any Text.isDecimalDigit = false := by decide +kernel

/-- No part of the file, but the whole of it, stands before what looks like the number of a line. -/
theorem no_number_earlier (hf : Separable (x ++ y)) (hne : y ≠ []) {d : Char} {z : Text}
    (hd : Text.isDecimalDigit d) : y ++ (beforeLine ++ t) ≠ beforeLine ++ d :: z := by
  intro he
  have hsep := not_mem_of_any beforeLine_digitless hd
  rcases List.append_eq_append_iff.1 he with ⟨a, hy, hstraddle⟩ | ⟨a, rfl, hinside⟩
  · have hshort : a.length < beforeLine.length := by
      have := List.length_pos_of_ne_nil hne
      rw [hy, List.length_append]
      omega
    rcases List.append_eq_append_iff.1 hstraddle with ⟨b, rfl, -⟩ | ⟨b, hb, hd'⟩
    · simp at hshort
    · cases b with
      | nil => simp [hb] at hshort
      | cons c b =>
        obtain ⟨rfl, -⟩ := List.cons.inj hd'
        exact hsep (by simp [hb])
  · cases a with
    | nil =>
      obtain rfl : d = ' ' := by simpa [beforeLine_eq] using congrArg List.head? hinside
      exact hsep (by decide)
    | cons c a =>
      obtain ⟨rfl, -⟩ := List.cons.inj hinside
      exact hf.noNumber d hd ⟨x, a, by simp⟩

theorem no_number_later (h : Numbered digits rest) (hne : x ≠ []) (hx : '\n' ∉ x) {d : Char}
    {z : Text} : beforeLine ++ (digits ++ rest) ≠ x ++ (beforeLine ++ d :: z) := by
  intro he
  obtain ⟨c, x, rfl⟩ := List.exists_cons_of_ne_nil hne
  obtain rfl : ' ' = c := by simpa [beforeLine_eq] using congrArg List.head? he
  exact (h.blank_before (by simpa using hx) he).2 rfl

def inLine : CharSet := .compl (.single '\n')

def lineExpr : Expr := literal beforeLine (.group lineGroup (.repeated 1 none true (.set .digit)))

/-- The default pattern of the compiler behind the message: the file is as short as it can be. -/
def fileExpr : Expr :=
  literal beforeFile (.seq (.group fileGroup (.repeated 1 none false (.set inLine))) lineExpr)

/-- The default pattern of the linter behind the message: what stands for the file is as long as it
can be, and forgotten. -/
def skipExpr : Expr := literal beforeFile (.seq (.repeated 1 none true (.set inLine)) lineExpr)

theorem piece_inLine : Piece inLine t ↔ '\n' ∉ t := by
  have hc : ∀ c, inLine.contains c ↔ c ≠ '\n' := by
    intro c
    simp [inLine, CharSet.contains, ← CharSet.contains_single]
  simp only [Piece, hc]
  grind

theorem isDecimalDigit_of_isDigit {c : Char} (hc : c.isDigit) : Text.isDecimalDigit c := by
  have hrange : 0x30 ≤ c.toNat ∧ c.toNat < 0x30 + 10 := by
    simp only [Char.isDigit, Bool.and_eq_true, decide_eq_true_eq, UInt32.le_iff_toNat_le] at hc
    exact ⟨hc.1, Nat.lt_succ_of_le hc.2⟩
  exact List.any_eq_true.2 ⟨0x30, by decide, by simpa using hrange⟩

theorem accepts_lineExpr (h : Numbered digits rest) :
    Accepts (run lineExpr some) (beforeLine ++ (digits ++ rest)) groups
      ((lineGroup, digits) :: groups) := by
  apply accepts_literal
  apply accepts_group_greedy h.nonempty
  · intro c hc
    exact isDecimalDigit_of_isDigit (h.digit c hc)
  · intro before
    exact ⟨_, rfl, rfl⟩
  · -- the end of the line is no digit
    rintro u v hne rfl hu
    obtain ⟨c, u, rfl⟩ := List.exists_cons_of_ne_nil hne
    obtain rfl := h.ends c (by simp)
    exact absurd (hu '\n' (by simp)) (by decide)

theorem refuses_lineExpr (h : ∀ d z, Text.isDecimalDigit d → t ≠ beforeLine ++ d :: z) :
    Refuses (run lineExpr some) t groups := by
  apply refuses_literal
  rintro v rfl
  apply refuses_group
  rintro u v hne rfl hu
  obtain ⟨d, u, rfl⟩ := List.exists_cons_of_ne_nil hne
  exact absurd rfl (h d (u ++ v) (hu d (by simp)))

theorem accepts_fileExpr (hf : Separable f) (h : Numbered digits rest) :
    Accepts (run fileExpr some) (place f digits rest) groups
      ((lineGroup, digits) :: (fileGroup, f) :: groups) := by
  obtain ⟨f', hf'⟩ := hf.exists_cons
  apply accepts_literal
  apply accepts_group_lazy (by simp [hf']) (piece_inLine.2 hf.oneLine) (accepts_lineExpr h)
  rintro u₁ u₂ rfl - hne
  apply refuses_lineExpr
  intro d z hd
  exact no_number_earlier hf hne hd

theorem accepts_skipExpr (hf : Separable f) (h : Numbered digits rest) :
    Accepts (run skipExpr some) (place f digits rest) groups ((lineGroup, digits) :: groups) := by
  obtain ⟨f', hf'⟩ := hf.exists_cons
  apply accepts_literal
  show Accepts (run (.plus true (.set inLine)) (run lineExpr some)) _ _ _
  apply accepts_plus_greedy (by simp [hf']) (piece_inLine.2 hf.oneLine) (accepts_lineExpr h)
  intro u v hne he hu
  apply refuses_lineExpr
  rintro d z - rfl
  exact no_number_later h hne (piece_inLine.1 hu) he

/-- An end of a pattern that leads nowhere unless a failure could be located. -/
def Locates (ending : Expr) : Prop :=
  ∀ t groups, ¬Located t → Refuses (run ending some) t groups

theorem locates_fileExpr : Locates fileExpr := by
  intro t groups h
  apply refuses_literal
  rintro v rfl
  apply refuses_group
  rintro w v - rfl hw
  apply refuses_lineExpr
  rintro d z hd rfl
  exact h ⟨w, d, z, piece_inLine.1 hw, hd, rfl⟩

theorem locates_skipExpr : Locates skipExpr := by
  intro t groups h
  apply refuses_literal
  rintro v rfl
  show Refuses (run (.plus true (.set inLine)) (run lineExpr some)) _ _
  apply refuses_plus
  rintro w v - rfl hw
  apply refuses_lineExpr
  rintro d z hd rfl
  exact h ⟨w, d, z, piece_inLine.1 hw, hd, rfl⟩

/-- A message, as long as it can be, and the end of a pattern. -/
def messageExpr (ending : Expr) : Expr :=
  .seq (.group messageGroup (.repeated 1 none true (.set inLine))) ending

variable {ending : Expr}

theorem accepts_messageExpr (hending : Locates ending) (hf : Separable f)
    (h : Numbered digits rest) (hne : m ≠ []) (hm : '\n' ∉ m)
    (haccept : Accepts (run ending some) (place f digits rest) ((messageGroup, m) :: groups)
      result) :
    Accepts (run (messageExpr ending) some) (m ++ place f digits rest) groups result := by
  apply accepts_group_greedy hne (piece_inLine.2 hm) haccept
  intro x v hx he hpiece
  exact hending _ _ (not_located_later hf h hx (piece_inLine.1 hpiece) he)

theorem refuses_messageExpr (hending : Locates ending) (hf : Separable f)
    (h : Numbered digits rest) (hx : '\n' ∉ x) (he : place f digits rest = x ++ v) :
    Refuses (run (messageExpr ending) some) v groups := by
  apply refuses_group
  rintro w v hne rfl hw
  apply hending
  refine not_located_later hf h (show x ++ w ≠ [] by simp [hne]) ?_ (by rw [he, List.append_assoc])
  simp [hx, piece_inLine.1 hw]

theorem trim_of_blank (h : Piece .blank t) : Text.trim t = [] := by
  have hstart : Text.trimStart t = [] := List.dropWhile_eq_nil_iff.2 h
  rw [Text.trim, hstart]
  rfl

theorem exists_trimmed (h : ¬Piece .blank t) : ∃ front c core, t = front ++ c :: core ∧
    Piece .blank front ∧ ¬Text.blank c ∧ Text.trim (c :: core) = Text.trim t := by
  induction t with
  | nil => exact absurd (by simp [Piece]) h
  | cons c t ih =>
    by_cases hc : Text.blank c
    · have ht : ¬Piece .blank t := by
        intro ht
        exact h (piece_cons.2 ⟨hc, ht⟩)
      obtain ⟨front, d, core, rfl, hfront, hd, htrim⟩ := ih ht
      refine ⟨c :: front, d, core, rfl, piece_cons.2 ⟨hc, hfront⟩, hd, ?_⟩
      rw [htrim, Text.trim, Text.trim, Text.trimStart, Text.trimStart,
        List.dropWhile_cons_of_pos hc]
    · exact ⟨[], c, t, rfl, by simp [Piece], hc, rfl⟩

/-- The blanks that the pattern of the linter skips, and the message. -/
def blanksExpr : Expr := .seq (.repeated 0 none true (.set .blank)) (messageExpr skipExpr)

theorem no_newline_of_blank (he : place f digits rest = x ++ v) (hx : Piece .blank x) :
    '\n' ∉ x := by
  simp [place, beforeFile_eq, List.cons_eq_append_iff] at he
  obtain ⟨rfl, -⟩ | ⟨_, rfl, ⟨rfl, -⟩ | ⟨_, rfl, -⟩⟩ := he
  · simp
  · decide
  · exact absurd (hx 'i' (by simp)) (by decide)

theorem accepts_after_blanks {pad shown : Text} (hf : Separable f) (h : Numbered digits rest)
    (hpad : pad ≠ []) (hblank : Piece .blank pad) (hne : shown ≠ []) (hshown : '\n' ∉ shown)
    (hlonger : ∀ x v, x ≠ [] → shown ++ place f digits rest = x ++ v → Piece .blank x →
      Refuses (run (messageExpr skipExpr) some) v groups) :
    Accepts (run blanksExpr some) (pad ++ (shown ++ place f digits rest)) groups
      ((lineGroup, digits) :: (messageGroup, shown) :: groups) := by
  apply accepts_repeated_zero
  apply accepts_plus_greedy hpad hblank
  · exact accepts_messageExpr locates_skipExpr hf h hne hshown (accepts_skipExpr hf h)
  · exact hlonger

/-- The blanks at the beginning of a message are skipped, but for the last one if there is nothing
else. So what is found is the message up to blanks around it. -/
theorem accepts_blanksExpr (hf : Separable f) (h : Numbered digits rest) (hne : m ≠ [])
    (hm : '\n' ∉ m) :
    ∃ shown, Text.trim shown = Text.trim m ∧
      Accepts (run blanksExpr some) ("  ".toList ++ (m ++ place f digits rest)) groups
        ((lineGroup, digits) :: (messageGroup, shown) :: groups) := by
  have hpad : ∀ {front}, Piece .blank front → Piece .blank ("  ".toList ++ front) := by
    intro front hfront
    exact piece_cons.2 ⟨by decide, piece_cons.2 ⟨by decide, hfront⟩⟩
  by_cases hblank : Piece .blank m
  · obtain ⟨front, c, rfl⟩ : ∃ front c, m = front ++ [c] :=
      ⟨_, _, (List.dropLast_append_getLast hne).symm⟩
    obtain ⟨hfront, hc⟩ : Piece .blank front ∧ Piece .blank [c] :=
      ⟨fun b hb => hblank b (by simp [hb]), fun b hb => hblank b (List.mem_append_right front hb)⟩
    refine ⟨[c], by rw [trim_of_blank hblank, trim_of_blank hc], ?_⟩
    rw [List.append_assoc front, ← List.append_assoc]
    apply accepts_after_blanks hf h (by simp) (hpad hfront) (by simp)
    · intro hmem
      exact hm (List.mem_append_right front hmem)
    · -- the loop has passed the last blank and at most the first one of the separator
      intro x v hx he hpiece
      obtain ⟨b, x, rfl⟩ := List.exists_cons_of_ne_nil hx
      obtain ⟨-, he⟩ := List.cons.inj he
      have hline : '\n' ∉ x := no_newline_of_blank he (piece_cons.1 hpiece).2
      exact refuses_messageExpr locates_skipExpr hf h hline he
  · obtain ⟨front, c, core, rfl, hfront, hc, htrim⟩ := exists_trimmed hblank
    refine ⟨c :: core, htrim, ?_⟩
    rw [List.append_assoc front, ← List.append_assoc]
    apply accepts_after_blanks hf h (by simp) (hpad hfront) (by simp)
    · intro hmem
      exact hm (List.mem_append_right front hmem)
    · -- the first character that is left is not blank
      intro x v hx he hpiece
      obtain ⟨b, x, rfl⟩ := List.exists_cons_of_ne_nil hx
      obtain ⟨rfl, -⟩ := List.cons.inj he
      exact absurd (hpiece c (by simp)) hc

def compilerExpr : Expr := messageExpr fileExpr

def linterExpr : Expr :=
  .seq (.alt (literal "Pars" (.set (.single 'e'))) (literal "Fata" (.set (.single 'l'))))
    (literal " error:" blanksExpr)

theorem parse_compiler : parse ({} : CompilerConfig).errorPattern = .ok ⟨compilerExpr⟩ := by
  have hread : Pattern.read? ({} : CompilerConfig).errorPattern = some compilerExpr := by
    decide +kernel
  rw [parse, hread]
  rfl

theorem parse_linter : parse ({} : LinterConfig).errorPattern = .ok ⟨linterExpr⟩ := by
  have hread : Pattern.read? ({} : LinterConfig).errorPattern = some linterExpr := by
    decide +kernel
  rw [parse, hread]
  rfl

theorem numbered_decimal (n : Nat) (hrest : ∀ c ∈ rest.head?, c = '\n') :
    Numbered (Text.decimal n) rest where
  nonempty := Nat.toDigits_ne_nil
  digit c hc := Nat.isDigit_of_mem_toDigits (by decide) (by decide) hc
  ends := hrest

theorem readCount_decimal {n : Nat} (hn : n < 2 ^ 64) :
    Text.readCount (Text.decimal n) = some n := by
  have h : Numbered (Text.decimal n) [] := numbered_decimal n (by simp)
  have hvalue : Text.digitsValue (Text.decimal n) = n := Nat.ofDigitChars_ten_toDigits
  rw [Text.digitsValue_eq] at hvalue
  exact Text.readCount_eq_some_iff.2 ⟨⟨_, .inl rfl, h.nonempty, h.digit, hvalue⟩, hn⟩

def printed (m f : Text) (n : Nat) (rest : Text) : Text :=
  m ++ " in ".toList ++ f ++ " on line ".toList ++ Text.decimal n ++ rest

theorem printed_eq (m f : Text) (n : Nat) (rest : Text) :
    printed m f n rest = m ++ place f (Text.decimal n) rest := by
  simp only [printed, place, List.append_assoc]
  rfl

theorem find_of_groups {e : Expr} (h : ∃ found, search e t = some found ∧ found.groups = result) :
    find ⟨e⟩ t = some
      { message := Text.trim ((result.lookup messageGroup).getD [])
        file := (result.lookup fileGroup).map fun text => .ofText (Text.trim text)
        line := (result.lookup lineGroup).bind Text.readCount } := by
  obtain ⟨found, hsearch, rfl⟩ := h
  exact Backend.find_of_some hsearch

theorem find_compiler (hf : Separable f) (h : Numbered digits rest) (hne : m ≠ [])
    (hm : '\n' ∉ m) :
    find ⟨compilerExpr⟩ (m ++ place f digits rest) =
      some ⟨Text.trim m, some (.ofText (Text.trim f)), Text.readCount digits⟩ := by
  have hmatch : Accepts (run compilerExpr some) (m ++ place f digits rest) []
      [(lineGroup, digits), (fileGroup, f), (messageGroup, m)] :=
    accepts_messageExpr locates_fileExpr hf h hne hm (accepts_fileExpr hf h)
  have hnone : ∀ u₁ u₂ : Text, [] = u₁ ++ u₂ → u₂ ≠ [] →
      Refuses (run compilerExpr some) (u₂ ++ (m ++ place f digits rest)) [] := by
    intro u₁ u₂ he hu
    exact absurd (List.append_eq_nil_iff.1 he.symm).2 hu
  exact find_of_groups (search_of_accepts hnone hmatch)

def announcements : List Text := ["PHP Parse error:  ", "PHP Fatal error:  "]

theorem accepts_linterExpr {kind : Text} (hkind : kind ∈ ["Parse".toList, "Fatal".toList])
    (h : Accepts (run blanksExpr some) t groups result) :
    Accepts (run linterExpr some) (kind ++ (" error:".toList ++ t)) groups result := by
  have herror : Accepts (run (literal " error:" blanksExpr) some) (" error:".toList ++ t) groups
      result := accepts_literal h
  simp only [List.mem_cons, List.not_mem_nil, or_false] at hkind
  rcases hkind with rfl | rfl
  · apply accepts_alt_left
    exact accepts_literal (accepts_set (CharSet.contains_single.2 rfl) herror)
  · apply accepts_alt_right
    · apply refuses_literal
      intro v hv
      simp at hv
    · exact accepts_literal (accepts_set (CharSet.contains_single.2 rfl) herror)

theorem refuses_linterExpr (h : ∀ v, t ≠ "Pars".toList ++ v ∧ t ≠ "Fata".toList ++ v) :
    Refuses (run linterExpr some) t groups := by
  apply refuses_alt
  · apply refuses_literal
    intro v hv
    exact absurd hv (h v).1
  · apply refuses_literal
    intro v hv
    exact absurd hv (h v).2

theorem refuses_before_kind (hx : "PHP ".toList = x ++ y) (hne : y ≠ []) :
    Refuses (run linterExpr some) (y ++ t) groups := by
  apply refuses_linterExpr
  intro v
  simp [List.cons_eq_append_iff] at hx
  obtain ⟨-, rfl⟩ | ⟨_, -, ⟨-, rfl⟩ | ⟨_, -, ⟨-, rfl⟩ | ⟨_, -, ⟨-, rfl⟩ | ⟨-, rfl⟩⟩⟩⟩ := hx
  · simp
  · simp
  · simp
  · simp
  · exact absurd rfl hne

theorem find_linter (hf : Separable f) (h : Numbered digits rest) (hne : m ≠ [])
    (hm : '\n' ∉ m) {announcement : Text} (ha : announcement ∈ announcements) :
    find ⟨linterExpr⟩ (announcement ++ (m ++ place f digits rest)) =
      some ⟨Text.trim m, none, Text.readCount digits⟩ := by
  obtain ⟨kind, hkind, rfl⟩ : ∃ kind ∈ ["Parse".toList, "Fatal".toList],
      announcement = "PHP ".toList ++ (kind ++ (" error:".toList ++ "  ".toList)) := by
    simp only [announcements, List.mem_cons, List.not_mem_nil, or_false] at ha
    rcases ha with rfl | rfl
    · exact ⟨"Parse".toList, by simp, rfl⟩
    · exact ⟨"Fatal".toList, by simp, rfl⟩
  obtain ⟨shown, htrim, hmatch⟩ := accepts_blanksExpr hf h hne hm
  have hfound := search_of_accepts (fun _ _ hx hne => refuses_before_kind hx hne)
    (accepts_linterExpr hkind hmatch)
  simp only [List.append_assoc] at hfound ⊢
  rw [← htrim]
  exact find_of_groups hfound

/-- The default patterns find in a printed failure the message and the line that were printed, and
that of the compiler also the file. The message may hold separators of its own. -/
theorem default_patterns_read_back {n : Nat} (hne : m ≠ []) (hm : '\n' ∉ m) (hf : Separable f)
    (hn : n < 2 ^ 64) (hrest : ∀ c ∈ rest.head?, c = '\n') :
    (∃ pattern, parse ({} : CompilerConfig).errorPattern = .ok pattern ∧
      pattern.find (printed m f n rest) =
        some ⟨Text.trim m, some (.ofText (Text.trim f)), some n⟩) ∧
    ∃ pattern, parse ({} : LinterConfig).errorPattern = .ok pattern ∧
      ∀ announcement ∈ announcements, pattern.find (announcement ++ printed m f n rest) =
        some ⟨Text.trim m, none, some n⟩ := by
  have h := numbered_decimal n hrest
  rw [printed_eq, ← readCount_decimal hn]
  constructor
  · exact ⟨_, parse_compiler, find_compiler hf h hne hm⟩
  · exact ⟨_, parse_linter, fun announcement ha => find_linter hf h hne hm ha⟩

/-- A file that ends in the middle of the first separator and holds the second one twice. -/
def straddlingFile : Text := "/srv/my site on line on line in"

theorem straddlingFile_separable : Separable straddlingFile where
  absolute := rfl
  oneLine := by decide
  noSeparator := by decide
  noNumber := by
    intro d hd hoccurs
    have hnone : straddlingFile.any Text.isDecimalDigit = false := by decide +kernel
    exact not_mem_of_any hnone hd (hoccurs.subset (by simp))

/-- A message with separators of its own, and a further failure on the next line. -/
def straddlingText : Text :=
  printed "  in /a on line 3 in" straddlingFile 18446744073709551615 "\nThrown in /b on line 9"

theorem default_patterns_read_back_straddling :
    Separable straddlingFile ∧
    (∃ pattern, parse ({} : CompilerConfig).errorPattern = .ok pattern ∧
      pattern.find straddlingText =
        some ⟨"in /a on line 3 in", some ⟨straddlingFile⟩, some 18446744073709551615⟩) ∧
    ∃ pattern, parse ({} : LinterConfig).errorPattern = .ok pattern ∧
      pattern.find ("PHP Fatal error:  ".toList ++ straddlingText) =
        some ⟨"in /a on line 3 in", none, some 18446744073709551615⟩ := by
  refine ⟨straddlingFile_separable, ?_⟩
  obtain ⟨hcompiler, pattern, hparse, hfind⟩ := default_patterns_read_back
    (show "  in /a on line 3 in".toList ≠ [] by decide) (by decide) straddlingFile_separable
    (show 18446744073709551615 < 2 ^ 64 by decide)
    (show ∀ c ∈ "\nThrown in /b on line 9".toList.head?, c = '\n' by simp)
  exact ⟨hcompiler, pattern, hparse, hfind _ (by simp [announcements])⟩

end TemplateCheck.FailurePattern
