import Mathlib.Data.List.Forall2
import Mathlib.Data.List.Nodup
import Mathlib.Data.List.Range
import TemplateCheck.Excerpt
import TemplateCheck.Proofs.Spelling

/-!
An excerpt is said here without a window: its numbers are those of the rows that lie at most five
away from the line. The window is the same set of numbers, given by its two ends, as long as the text
has no more rows than can be counted.
-/
namespace TemplateCheck.Excerpt

variable {line total first last n : Nat} {content piece text : Text} {rs : List Text}

/-- The row of a piece between newlines: one carriage return at the end is left out. -/
def Trims (piece text : Text) : Prop :=
  piece = text ++ ['\r'] ∨ (∀ t, piece ≠ t ++ ['\r']) ∧ text = piece

/-- The rows of a text, by the pieces that newlines join to it. -/
def RowsOf (content : Text) (rs : List Text) : Prop :=
  ∃ pieces, pieces ≠ [] ∧ (∀ piece ∈ pieces, '\n' ∉ piece) ∧ Text.join ['\n'] pieces = content ∧
    List.Forall₂ Trims pieces rs

theorem trims_iff : Trims piece text ↔ text = stripReturn piece := by
  unfold Trims stripReturn
  by_cases h : piece.getLast? = some '\r'
  · obtain ⟨t, rfl⟩ := List.getLast?_eq_some_iff.1 h
    simp [eq_comm]
  · have hne : ∀ t, piece ≠ t ++ ['\r'] := by
      intro t ht
      exact h (by simp [ht])
    simp [h, hne]

theorem forall₂_trims {pieces : List Text} :
    List.Forall₂ Trims pieces rs ↔ rs = pieces.map stripReturn := by
  induction pieces generalizing rs with
  | nil => simp
  | cons piece pieces ih =>
    rw [List.forall₂_cons_left_iff]
    simp only [trims_iff, ih, List.map_cons]
    constructor
    · rintro ⟨_, _, rfl, rfl, rfl⟩
      rfl
    · intro h
      exact ⟨_, _, rfl, rfl, h⟩

theorem rowsOf_iff : RowsOf content rs ↔ rs = rows content := by
  constructor
  · rintro ⟨pieces, hne, hnewline, rfl, htrims⟩
    have hlines : Text.lines (Text.join ['\n'] pieces) = pieces :=
      List.splitOn_intercalate '\n' hnewline hne
    rw [rows, hlines]
    exact forall₂_trims.1 htrims
  · rintro rfl
    exact ⟨Text.lines content, List.splitOn_ne_nil '\n' content, Path.not_mem_of_mem_splitOn '\n' content,
      List.intercalate_splitOn '\n', forall₂_trims.2 rfl⟩

theorem rows_pos (content : Text) : 0 < (rows content).length := by
  rw [rows, List.length_map]
  exact List.length_pos_of_ne_nil (List.splitOn_ne_nil '\n' content)

theorem rows_newline (content : Text) : rows (content ++ ['\n']) = rows content ++ [[]] := by
  have hlines : Text.lines (content ++ ['\n']) = Text.lines content ++ [[]] := by
    induction content with
    | nil => rfl
    | cons c rest ih =>
      unfold Text.lines at ih ⊢
      rw [List.cons_append, List.splitOn_cons_eq_if_modifyHead, List.splitOn_cons_eq_if_modifyHead, ih]
      obtain ⟨first, others, he⟩ := List.exists_cons_of_ne_nil (List.splitOn_ne_nil '\n' rest)
      by_cases hc : c == '\n' <;> simp [hc, he]
  simp [rows, hlines, stripReturn]

/-- The row of a number is at most five away from the line. -/
def IsNear (line n : Nat) : Prop := ((n : Int) - line).natAbs ≤ 5

instance (line : Nat) : DecidablePred (IsNear line) :=
  fun n => inferInstanceAs (Decidable (((n : Int) - line).natAbs ≤ 5))

/-- The numbers of the near rows, in order. -/
def near (line total : Nat) : List Nat := (List.range' 1 total).filter (IsNear line ·)

def largest (numbers : List Nat) : Nat := numbers.foldr max 0

theorem isNear_iff : IsNear line n ↔ n ≤ line + 5 ∧ line ≤ n + 5 := by
  unfold IsNear
  omega

theorem mem_near : n ∈ near line total ↔ 1 ≤ n ∧ n ≤ total ∧ n ≤ line + 5 ∧ line ≤ n + 5 := by
  simp only [near, List.mem_filter, List.mem_range'_1, decide_eq_true_eq, isNear_iff]
  omega

theorem nodup_near : (near line total).Nodup := (List.nodup_range' 1).filter _

theorem window_eq_some : window line total = some (first, last) ↔
    first = max (line - 5) 1 ∧ last = min (min (line + 5) Text.maxCount) total ∧ first ≤ last := by
  unfold window reach
  by_cases h : max (line - 5) 1 ≤ min (min (line + 5) Text.maxCount) total
  · simp only [if_pos h, Option.some.injEq, Prod.mk.injEq]
    omega
  · simp only [if_neg h, reduceCtorEq, false_iff]
    omega

theorem window_eq_none : window line total = none ↔
    min (min (line + 5) Text.maxCount) total < max (line - 5) 1 := by
  unfold window reach
  by_cases h : max (line - 5) 1 ≤ min (min (line + 5) Text.maxCount) total
  · simp only [if_pos h, reduceCtorEq, false_iff]
    omega
  · simp only [if_neg h, true_iff]
    omega

theorem window_inside (h : window line total = some (first, last)) (hf : first ≤ n) (hl : n ≤ last) :
    1 ≤ n ∧ n - 1 < total := by
  obtain ⟨hfirst, hlast, -⟩ := window_eq_some.1 h
  omega

/-- A window spans the near rows. The text has to end before the sum is cut off. -/
theorem near_of_window (ht : total ≤ Text.maxCount) (h : window line total = some (first, last)) :
    near line total = List.range' first (last + 1 - first) := by
  obtain ⟨hfirst, hlast, hle⟩ := window_eq_some.1 h
  have hbefore : (List.range' 1 (first - 1)).filter (IsNear line ·) = [] := by
    simp only [List.filter_eq_nil_iff, List.mem_range'_1, decide_eq_true_eq, isNear_iff]
    omega
  have hwithin : (List.range' first (last + 1 - first)).filter (IsNear line ·) =
      List.range' first (last + 1 - first) := by
    simp only [List.filter_eq_self, List.mem_range'_1, decide_eq_true_eq, isNear_iff]
    omega
  have hafter : (List.range' (last + 1) (total - last)).filter (IsNear line ·) = [] := by
    simp only [List.filter_eq_nil_iff, List.mem_range'_1, decide_eq_true_eq, isNear_iff]
    omega
  have hsplit : List.range' 1 total = List.range' 1 (first - 1) ++
      (List.range' first (last + 1 - first) ++ List.range' (last + 1) (total - last)) := by
    have hmiddle : first = 1 + (first - 1) := by omega
    have hend : last + 1 = first + (last + 1 - first) := by omega
    have htotal : total = (first - 1) + ((last + 1 - first) + (total - last)) := by omega
    conv_lhs => rw [htotal]
    rw [← List.range'_append_1, ← List.range'_append_1, ← hmiddle, ← hend]
  rw [near, hsplit, List.filter_append, List.filter_append, hbefore, hwithin, hafter]
  simp

theorem near_of_no_window (ht : total ≤ Text.maxCount) (h : window line total = none) :
    near line total = [] := by
  rw [List.eq_nil_iff_forall_not_mem]
  intro n hn
  have hends := window_eq_none.1 h
  have hnear := mem_near.1 hn
  omega

theorem near_eq_nil_iff (ht : 0 < total) : near line total = [] ↔ total + 5 < line := by
  rw [List.eq_nil_iff_forall_not_mem]
  simp only [mem_near]
  constructor
  · intro h
    -- the row of the line itself, or else the row that is closest to it
    have hclosest := h (min (max line 1) total)
    omega
  · omega

theorem length_near (ht : total ≤ Text.maxCount) : (near line total).length ≤ 11 := by
  cases h : window line total with
  | none => simp [near_of_no_window ht h]
  | some ends =>
    rw [near_of_window ht h, List.length_range']
    obtain ⟨hfirst, hlast, -⟩ := window_eq_some.1 h
    omega

theorem le_largest {numbers : List Nat} (h : n ∈ numbers) : n ≤ largest numbers := by
  induction numbers with
  | nil => simp at h
  | cons m numbers ih =>
    simp only [largest, List.foldr_cons] at ih ⊢
    rcases List.mem_cons.1 h with rfl | h
    · exact Nat.le_max_left _ _
    · exact Nat.le_trans (ih h) (Nat.le_max_right _ _)

theorem largest_of_window (ht : total ≤ Text.maxCount) (h : window line total = some (first, last)) :
    largest (near line total) = last := by
  have hspan : ∀ count start, largest (List.range' start (count + 1)) = start + count := by
    intro count
    induction count with
    | zero => simp [largest]
    | succ count ih =>
      intro start
      have hrest := ih (start + 1)
      simp only [largest] at hrest ⊢
      rw [List.range'_succ, List.foldr_cons, hrest]
      omega
  have hle := (window_eq_some.1 h).2.2
  have hcount : last + 1 - first = (last - first) + 1 := by omega
  rw [near_of_window ht h, hcount, hspan]
  omega

theorem length_decimal_mono {m n : Nat} (h : m ≤ n) :
    (Text.decimal m).length ≤ (Text.decimal n).length := by
  have hpos : 0 < (Text.decimal n).length := Nat.length_toDigits_pos
  have hn := (Nat.length_toDigits_le_iff (by decide : 1 < 10) hpos).1 le_rfl
  exact (Nat.length_toDigits_le_iff (by decide) hpos).2 (lt_of_le_of_lt h hn)

theorem length_rightAligned {width : Nat} (h : text.length ≤ width) :
    (Text.rightAligned width text).length = width := by
  simp [Text.rightAligned, h]

theorem numbered_rows (rs : List Text) (first count : Nat) (hf : 1 ≤ first)
    (hc : first - 1 + count ≤ rs.length) :
    List.Forall₂ (fun n (numbered : Text × Nat) => numbered.2 = n ∧ rs[n - 1]? = some numbered.1)
      (List.range' first count) (((rs.drop (first - 1)).take count).zipIdx first) := by
  induction count generalizing first with
  | zero => simp
  | succ count ih =>
    have hlt : first - 1 < rs.length := by omega
    have hnext : first - 1 + 1 = first := by omega
    rw [List.drop_eq_getElem_cons hlt, List.take_succ_cons, List.zipIdx_cons, List.range'_succ, hnext]
    refine .cons ⟨rfl, List.getElem?_eq_getElem hlt⟩ ?_
    have hrest := ih (first + 1) (by omega) (by omega)
    rwa [Nat.add_sub_cancel] at hrest

def ShownAs (mark : Text → Text) (width line : Nat) (rs : List Text) (n : Nat) (out : Text) : Prop :=
  ∃ text, rs[n - 1]? = some text ∧
    out = Text.rightAligned width (Text.decimal n) ++ ": " ++ (if n = line then mark text else text)

theorem shownAs_unique {mark : Text → Text} {width : Nat} :
    Relator.RightUnique (ShownAs mark width line rs) := by
  rintro n _ _ ⟨text, htext, rfl⟩ ⟨text', htext', rfl⟩
  rw [htext, Option.some.injEq] at htext'
  rw [htext']

def numberWidth (line total : Nat) : Nat := (Text.decimal (largest (near line total))).length

theorem window_countable (line total : Nat) :
    window line total = window line (min total Text.maxCount) := by
  have hlast : min (min (line + reach) Text.maxCount) total =
      min (min (line + reach) Text.maxCount) (min total Text.maxCount) := by omega
  simp only [window, ← hlast]

theorem renderWith_shows (mark : Text → Text) (content : Text) (line : Nat) :
    let total := min (rows content).length Text.maxCount
    List.Forall₂ (ShownAs mark (numberWidth line total) line (rows content)) (near line total)
      (renderWith mark content line) := by
  intro total
  have ht : total ≤ Text.maxCount := Nat.min_le_right ..
  rw [renderWith, window_countable]
  cases h : window line total with
  | none =>
    rw [near_of_no_window ht h]
    exact .nil
  | some ends =>
    obtain ⟨first, last⟩ := ends
    obtain ⟨hfirst, hlast, hle⟩ := window_eq_some.1 h
    rw [numberWidth, largest_of_window ht h, near_of_window ht h, List.forall₂_map_right_iff]
    refine (numbered_rows (rows content) first (last + 1 - first) (by omega) (by omega)).imp ?_
    rintro n ⟨text, number⟩ ⟨rfl, htext⟩
    exact ⟨text, htext, rfl⟩

/-- What an excerpt of rows around a line is. -/
structure IsExcerpt (mark : Text → Text) (line : Nat) (rs shown : List Text) : Prop where
  shows : List.Forall₂ (ShownAs mark (numberWidth line rs.length) line rs) (near line rs.length) shown
  length_le : shown.length ≤ 11
  aligned : ∀ n ∈ near line rs.length,
    (Text.rightAligned (numberWidth line rs.length) (Text.decimal n)).length =
      numberWidth line rs.length
  marked : (near line rs.length).count line = if 1 ≤ line ∧ line ≤ rs.length then 1 else 0
  empty_iff : shown = [] ↔ rs.length + 5 < line

/-- The excerpt around a line, however a mark looks: every row at most five away, in order, numbered
in one column, and marked if it is the line. -/
theorem excerpt_shows_near_rows (mark : Text → Text) (content : Text) (line : Nat)
    (ht : (rows content).length ≤ Text.maxCount) :
    (∀ rs, RowsOf content rs ↔ rs = rows content) ∧
    (∀ before, content = before ++ ['\n'] → rows content = rows before ++ [[]]) ∧
    (∀ first last n, window line (rows content).length = some (first, last) → first ≤ n → n ≤ last →
      1 ≤ n ∧ n - 1 < (rows content).length) ∧
    IsExcerpt mark line (rows content) (renderWith mark content line) := by
  have hshows := renderWith_shows mark content line
  rw [Nat.min_eq_left ht] at hshows
  refine ⟨fun rs => rowsOf_iff, ?_, fun first last n h hf hl => window_inside h hf hl, ?_⟩
  · rintro before rfl
    exact rows_newline before
  · refine ⟨hshows, ?_, ?_, ?_, ?_⟩
    · rw [← hshows.length_eq]
      exact length_near ht
    · intro n hn
      exact length_rightAligned (length_decimal_mono (le_largest hn))
    · rw [nodup_near.count]
      simp only [mem_near]
      congr 1
      simp only [eq_iff_iff]
      omega
    · rw [← List.length_eq_zero_iff, ← hshows.length_eq, List.length_eq_zero_iff]
      exact near_eq_nil_iff (rows_pos content)

/-- Eleven rows. The tenth ends in a carriage return, and the last is empty. -/
def longContent : Text := "a\n\n\n\n\n\n\n\n\nb\r\n"

theorem excerpt_shows_near_rows_long : (rows longContent).length ≤ Text.maxCount ∧
    renderWith ('>' :: ·) longContent 11 =
      [" 6: ".toList, " 7: ".toList, " 8: ".toList, " 9: ".toList, "10: b".toList, "11: >".toList] ∧
    IsExcerpt ('>' :: ·) 11 (rows longContent) (renderWith ('>' :: ·) longContent 11) ∧
    IsExcerpt ('>' :: ·) Text.maxCount (rows longContent)
      (renderWith ('>' :: ·) longContent Text.maxCount) := by
  have hsize : (rows longContent).length ≤ Text.maxCount := by decide +kernel
  exact ⟨hsize, by decide +kernel, (excerpt_shows_near_rows _ _ _ hsize).2.2.2,
    (excerpt_shows_near_rows _ _ _ hsize).2.2.2⟩

end TemplateCheck.Excerpt
