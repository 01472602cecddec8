import TemplateCheck.Proofs.Disclosure
import TemplateCheck.Proofs.ExcerptRows
import TemplateCheck.Proofs.Lossless
import TemplateCheck.Proofs.Naming

/-!
What a report looks like is said here apart from the pieces that it is written in. On a terminal it is
the summary and a block for each record, whose excerpt shows the rows near the line. In JSON it is a
value, laid out with two blanks for each level, and there is one as long as all paths are texts.
-/
namespace TemplateCheck

/-- A report in which all paths are texts. -/
def Report.Named (r : Report) : Prop :=
  ∀ record ∈ r.records, (∃ t, record.file = .ofText t) ∧
    ∀ source, record.source = some source → ∃ t, source = .ofText t

namespace Rendering

namespace Terminal

variable {f : Formatter} {v : Verbosity} {r : Report} {record : Record} {t : Text}

/-- The excerpt of a record, a line for each of the rows that are near. -/
def Excerpted (f : Formatter) (record : Record) (t : Text) : Prop :=
  ∃ rs shown, Excerpt.RowsOf record.content rs ∧
    List.Forall₂ (Excerpt.ShownAs (f.apply .mark)
        (Excerpt.numberWidth record.line (min rs.length Text.maxCount)) record.line rs)
      (Excerpt.near record.line (min rs.length Text.maxCount)) shown ∧
    t = shown.flatMap fun row => row ++ ['\n']

/-- The block of a record. The two upper levels have an excerpt in it. -/
def Blocked (f : Formatter) (v : Verbosity) (record : Record) (t : Text) : Prop :=
  ∃ excerpt, Excerpted f record excerpt ∧
    t = told f record ++ (match v with
      | .normal | .verbose => []
      | .veryVerbose | .debug => '\n' :: f.apply .header "Content:" ++ '\n' :: excerpt) ++ ['\n']

/-- A report on a terminal. The lowest level has no blocks. -/
def Shown (f : Formatter) (v : Verbosity) (r : Report) (t : Text) : Prop :=
  ∃ blocks, List.Forall₂ (Blocked f v) r.records blocks ∧
    t = summaryText f r.count ++ (match v with
      | .normal => []
      | .verbose | .veryVerbose | .debug => blocks.flatten)

theorem excerpted_iff : Excerpted f record t ↔
    t = (Excerpt.render f record.content record.line).flatMap line := by
  have hshows := Excerpt.renderWith_shows (f.apply .mark) record.content record.line
  constructor
  · rintro ⟨rs, shown, hrows, hshown, rfl⟩
    obtain rfl := Excerpt.rowsOf_iff.1 hrows
    have hsame := List.right_unique_forall₂' Excerpt.shownAs_unique hshown hshows
    rw [hsame]
    rfl
  · rintro rfl
    exact ⟨_, _, Excerpt.rowsOf_iff.2 rfl, hshows, rfl⟩

theorem blocked_iff : Blocked f v record t ↔ t = (block f v record).flatten := by
  have hblock : Blocked f v record t ↔
      t = told f record ++ (if v.showsContent then disclosed f record else []) ++ ['\n'] := by
    simp only [Blocked, excerpted_iff, exists_eq_left]
    cases v <;> rfl
  rw [hblock, flatten_block]

theorem shown_iff : Shown f v r t ↔ t = (render f v r).flatten := by
  have hrel : Blocked f v = fun record t => (block f v record).flatten = t := by
    ext record t
    rw [blocked_iff, eq_comm]
  have hblocks (blocks : List Text) : List.Forall₂ (Blocked f v) r.records blocks ↔
      (r.records.map fun record => (block f v record).flatten) = blocks := by
    rw [hrel, ← List.forall₂_map_left_iff, List.forall₂_eq_eq_eq]
  have hflatten : (r.records.flatMap (block f v)).flatten =
      (r.records.map fun record => (block f v record).flatten).flatten := by
    rw [List.flatMap_def, List.flatten_flatten, List.map_map]
    rfl
  simp only [Shown, hblocks, exists_eq_left', render, List.flatten_append, flatten_summary]
  cases v with
  | normal => simp [Verbosity.listsRecords, Verbosity.rank]
  | verbose => simp [Verbosity.listsRecords, Verbosity.rank, hflatten]
  | veryVerbose => simp [Verbosity.listsRecords, Verbosity.rank, hflatten]
  | debug => simp [Verbosity.listsRecords, Verbosity.rank, hflatten]

end Terminal

namespace Json

/-- The characters that have a letter of their own behind a backslash. -/
def shortEscapes : List (Char × Char) :=
  [('"', '"'), ('\\', '\\'), ('\x08', 'b'), ('\x0c', 'f'), ('\n', 'n'), ('\r', 'r'), ('\t', 't')]

def written (c : Char) : Text :=
  match shortEscapes.lookup c with
  | some letter => ['\\', letter]
  | none =>
    if c.toNat < 0x20 then
      "\\u00" ++ [Nat.digitChar (c.toNat / 16), Nat.digitChar (c.toNat % 16)]
    else [c]

def writtenText (t : Text) : Text := '"' :: t.flatMap written ++ ['"']

def newLine (depth : Nat) : Text := '\n' :: List.replicate (2 * depth) ' '

mutual

/-- A value at some depth, with a line for each of its parts. -/
def Value.laidOut (depth : Nat) : Value → Text
  | .null => "null"
  | .number n => Text.decimal n
  | .text t => writtenText t
  | .array [] => "[]"
  | .array (v :: rest) =>
    '[' :: newLine (depth + 1) ++ v.laidOut (depth + 1) ++ laidOutItems depth rest
  | .object [] => "\x7b\x7d"
  | .object ((key, v) :: rest) =>
    '\x7b' :: newLine (depth + 1) ++ writtenText key ++ ": " ++ v.laidOut (depth + 1) ++
      laidOutMembers depth rest

def laidOutItems (depth : Nat) : List Value → Text
  | [] => newLine depth ++ [']']
  | v :: rest => ',' :: newLine (depth + 1) ++ v.laidOut (depth + 1) ++ laidOutItems depth rest

def laidOutMembers (depth : Nat) : List (Text × Value) → Text
  | [] => newLine depth ++ ['\x7d']
  | (key, v) :: rest =>
    ',' :: newLine (depth + 1) ++ writtenText key ++ ": " ++ v.laidOut (depth + 1) ++
      laidOutMembers depth rest

end

theorem escape_eq_written : escape = written := by
  funext c
  unfold escape
  split
  case h_8 h₁ h₂ h₃ h₄ h₅ h₆ h₇ =>
    have hother : c ≠ '"' ∧ c ≠ '\\' ∧ c ≠ '\x08' ∧ c ≠ '\x0c' ∧ c ≠ '\n' ∧ c ≠ '\r' ∧ c ≠ '\t' :=
      ⟨h₁, h₂, h₃, h₄, h₅, h₆, h₇⟩
    have hnone : shortEscapes.lookup c = none := by
      simpa [shortEscapes, List.lookup_eq_none_iff] using hother
    simp only [written, hnone, unicodeEscape, hexDigit]
  all_goals rfl

theorem quoted_eq_writtenText (t : Text) : quoted t = writtenText t := by
  rw [quoted, writtenText, escape_eq_written]

theorem optional_eq_laidOut (o : Option Text) (depth : Nat) :
    optional o = (ofOptional o).laidOut depth := by
  cases o with
  | none => rfl
  | some t => exact quoted_eq_writtenText t

theorem record_eq_laidOut (r : Record) : record r = "    " ++ (ofRecord r).laidOut 2 := by
  delta record
  simp only [join_cons, List.flatMap_cons, List.flatMap_nil, List.append_nil, List.append_assoc, field,
    quoted_eq_writtenText, optional_eq_laidOut _ 3, ofRecord, Value.laidOut, laidOutMembers]
  rfl

theorem moreRecords_eq_laidOut (rs : List Record) :
    (rs.flatMap fun r => ",\n".toList ++ record r) ++ "\n  ]".toList =
      laidOutItems 1 (rs.map ofRecord) := by
  induction rs with
  | nil => rfl
  | cons r rs ih =>
    rw [List.flatMap_cons, List.append_assoc, ih, record_eq_laidOut, List.map_cons, laidOutItems,
      List.append_assoc, List.append_assoc, List.append_assoc]
    rfl

theorem array_eq_laidOut (rs : List Record) :
    array rs = (Value.array (rs.map ofRecord)).laidOut 1 := by
  cases rs with
  | nil => rfl
  | cons r rs =>
    have harray : array (r :: rs) = "[\n".toList ++ (record r ++
        ((rs.flatMap fun r => ",\n".toList ++ record r) ++ "\n  ]".toList)) := by
      simp only [array, List.isEmpty_cons, Bool.false_eq_true, if_false, List.map_cons, join_cons,
        List.flatMap_map, List.append_assoc]
    rw [harray, moreRecords_eq_laidOut, record_eq_laidOut, List.map_cons, Value.laidOut,
      List.append_assoc, List.append_assoc]
    rfl

theorem render_eq_laidOut (r : Report) : render r = (ofReport r).laidOut 0 ++ ['\n'] := by
  simp only [render, join_cons, List.flatMap_cons, List.flatMap_nil, List.append_nil, List.append_assoc,
    field, quoted_eq_writtenText, array_eq_laidOut, ofReport, Value.laidOut, laidOutMembers]
  rfl

theorem isSerializable_iff {r : Report} : isSerializable r ↔ r.Named := by
  simp only [isSerializable, Report.Named, List.all_eq_true, Bool.and_eq_true, Path.isText_iff,
    Option.all_eq_true]

end Json

open Json Terminal

/-- What a report looks like in a format, if it can be shown in it. -/
def Appears (format : Format) (f : Formatter) (v : Verbosity) (r : Report) (t : Text) : Prop :=
  match format with
  | .terminal => Shown f v r t
  | .json => r.Named ∧ t = (ofReport r).laidOut 0 ++ ['\n']

variable {format : Format} {f : Formatter} {v : Verbosity} {r : Report}

theorem appears_iff_of_ok {written : List Text} (h : pieces format f v r = .ok written) (t : Text) :
    Appears format f v r t ↔ t = written.flatten := by
  cases format with
  | terminal =>
    cases h
    exact shown_iff
  | json =>
    simp only [pieces] at h
    split at h
    next hs =>
      cases h
      simp only [Appears, ← render_eq_laidOut, isSerializable_iff.1 hs, true_and,
        List.flatten_singleton]
    next => cases h

theorem of_pieces_eq_error {e : CheckError} (h : pieces format f v r = .error e) :
    format = .json ∧ ¬r.Named ∧ e = .json "path contains invalid UTF-8 characters" := by
  cases format with
  | terminal => cases h
  | json =>
    simp only [pieces] at h
    split at h
    next => cases h
    next hs =>
      cases h
      exact ⟨rfl, mt isSerializable_iff.2 hs, rfl⟩

end Rendering
end TemplateCheck
