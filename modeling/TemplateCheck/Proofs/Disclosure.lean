import TemplateCheck.Rendering

/-!
A rendering is written in pieces, and read as the one text that they add up to. On a terminal every
level goes on where the one before it ends: the summary first, then a block for each record, and in
each block, just before its end, an excerpt. A report in JSON has no levels.
-/
namespace TemplateCheck.Rendering

/-- The whole rendering as one text, which is empty where a report has none. -/
def text (format : Format) (f : Formatter) (v : Verbosity) (r : Report) : Text :=
  ((pieces format f v r).toOption.getD []).flatten

namespace Terminal

variable (f : Formatter) (v : Verbosity) (r : Report) (record : Record)

def summaryText (count : Nat) : Text :=
  f.apply (if count = 0 then .success else .error) ("Errors found: " ++ Text.decimal count) ++
    ['\n', '\n']

/-- What a block says about the source of its record, unless that is the file itself. -/
def sourceText : Text :=
  match record.source with
  | none => "Source: " ++ f.apply .dim "<unknown>" ++ ['\n']
  | some source =>
    if source.components = record.file.components then [] else "Source: " ++ source.display ++ ['\n']

/-- What a block says about its record before any excerpt. -/
def told : Text :=
  f.apply .error "Error:" ++ ' ' :: record.error ++ '\n' ::
    record.file.display ++ ':' :: Text.decimal record.line ++ '\n' :: sourceText f record

/-- What an excerpt adds to a block: a blank line, a header and numbered rows. -/
def disclosed : Text :=
  '\n' :: f.apply .header "Content:" ++ '\n' ::
    (Excerpt.render f record.content record.line).flatMap line

theorem flatten_summary (count : Nat) : (summary f count).flatten = summaryText f count := by
  simp [summary, summaryText, line]

theorem flatten_sourceLine : (sourceLine f record).flatten = sourceText f record := by
  unfold sourceLine sourceText Record.hasDistinctSource
  cases record.source with
  | none => simp [line]
  | some source =>
    by_cases h : source.components = record.file.components <;> simp [Path.same, h, line]

theorem flatten_contentPart : (contentPart f record).flatten = disclosed f record := by
  simp [contentPart, disclosed, line, List.flatMap_def]

theorem flatten_block : (block f v record).flatten =
    told f record ++ (if v.showsContent then disclosed f record else []) ++ ['\n'] := by
  have hheading : (heading f record).flatten ++ (sourceLine f record).flatten = told f record := by
    simp [heading, told, line, flatten_sourceLine]
  rw [block, List.flatten_append, List.flatten_append, List.flatten_append, hheading]
  split <;> simp [flatten_contentPart, line]

theorem text_eq : text .terminal f v r = summaryText f r.count ++
    (if v.listsRecords then r.records.flatMap fun record =>
      told f record ++ (if v.showsContent then disclosed f record else []) ++ ['\n'] else []) := by
  have hblocks : (r.records.flatMap (block f v)).flatten = r.records.flatMap fun record =>
      told f record ++ (if v.showsContent then disclosed f record else []) ++ ['\n'] := by
    rw [← List.flatMap_id, List.flatMap_assoc]
    simp only [List.flatMap_id, flatten_block]
  have htext : text .terminal f v r = (render f v r).flatten := rfl
  rw [htext, render, List.flatten_append, flatten_summary]
  split
  · rw [hblocks]
  · simp

end Terminal

open Terminal

/-- A higher level only adds to a lower one: the records after the summary, and then an excerpt inside
the block of each record, which is left out of it at the level below. -/
theorem disclosure_is_progressive (f : Formatter) (r : Report) :
    (∀ v, text .terminal f .normal r <+: text .terminal f v r) ∧
    text .terminal f .verbose r = summaryText f r.count ++
      r.records.flatMap (fun record => told f record ++ ['\n']) ∧
    text .terminal f .veryVerbose r = summaryText f r.count ++
      r.records.flatMap (fun record => told f record ++ disclosed f record ++ ['\n']) ∧
    text .terminal f .debug r = text .terminal f .veryVerbose r ∧
    ∀ f' v v', pieces .json f v r = pieces .json f' v' r := by
  refine ⟨fun v => ?_, ?_, ?_, ?_, fun f' v v' => rfl⟩
  · have hnormal : text .terminal f .normal r = summaryText f r.count := by
      rw [text_eq, if_neg (by decide), List.append_nil]
    rw [hnormal, text_eq]
    exact List.prefix_append ..
  · rw [text_eq, if_pos (by decide)]
    simp [Verbosity.showsContent, Verbosity.rank]
  · rw [text_eq, if_pos (by decide)]
    simp [Verbosity.showsContent, Verbosity.rank]
  · rw [text_eq, text_eq]
    rfl

end TemplateCheck.Rendering
