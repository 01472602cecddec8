import Mathlib.Data.List.Basic
import Mathlib.Data.List.TakeWhile
import TemplateCheck.Proofs.Disclosure
import TemplateCheck.Tool

/-!
A colour code starts with an escape and holds no other one, and neither a blank nor a newline can be
part of it. So a text can be stripped of its codes in parts, as long as no part starts with a character
that could go on with a code, and painting a text adds nothing but codes. A report on a terminal is
laid out in spans before any formatter shows them; stripped of its codes, the coloured report is what
is left of the spans when no style is shown at all.
-/
namespace TemplateCheck

namespace Text

variable {needle : Text}

theorem replaceFrom_drop (replacement : Text) (skip : Nat) (t : Text) :
    replaceFrom needle replacement skip t = replace needle replacement (t.drop skip) := by
  induction t generalizing skip with
  | nil => simp [replaceFrom, replace]
  | cons c t ih =>
    cases skip with
    | zero => rfl
    | succ skip => exact ih skip

theorem replace_cases (hneedle : needle ≠ []) (replacement t : Text) :
    replace needle replacement t = t ∨
      ∃ u v, t = u ++ (needle ++ v) ∧
        replace needle replacement t = u ++ (replacement ++ replace needle replacement v) := by
  induction t with
  | nil => exact .inl rfl
  | cons c t ih =>
    rw [replace, replaceFrom]
    by_cases hstart : needle.isPrefixOf (c :: t)
    · rw [if_pos hstart, replaceFrom_drop]
      obtain ⟨v, hv⟩ := List.isPrefixOf_iff_prefix.1 hstart
      obtain ⟨d, rest, rfl⟩ := List.exists_cons_of_ne_nil hneedle
      obtain ⟨rfl, rfl⟩ := List.cons.inj hv
      exact .inr ⟨[], v, rfl, by simp⟩
    · rw [if_neg hstart]
      rcases ih with h | ⟨u, v, ht, h⟩
      · exact .inl (congrArg (c :: ·) h)
      · exact .inr ⟨c :: u, v, congrArg (c :: ·) ht, congrArg (c :: ·) h⟩

end Text

namespace ToolOutput

open Style (escape)

/-- An escape, a bracket, digits and semicolons, and a letter. -/
def IsColourCode (code : Text) : Prop :=
  ∃ parameters letter, code = escape :: '[' :: parameters ++ [letter] ∧
    (∀ c ∈ parameters, c.isDigit ∨ c = ';') ∧ letter.isAlpha

theorem isParameter_iff {c : Char} : isParameter c ↔ c.isDigit ∨ c = ';' := by
  simp [isParameter]

theorem toNat_ge_of_isAlpha {c : Char} (h : c.isAlpha) : 'A'.toNat ≤ c.toNat := by
  rcases Bool.or_eq_true_iff.1 h with h | h
  · exact UInt32.le_iff_toNat_le.1 (of_decide_eq_true h).1
  · have ha : 'a'.toNat ≤ c.toNat :=
      UInt32.le_iff_toNat_le.1 (of_decide_eq_true (Bool.and_eq_true_iff.1 h).1)
    exact Nat.le_trans (by decide) ha

theorem not_parameter_of_isAlpha {c : Char} (h : c.isAlpha) : isParameter c = false := by
  by_contra hp
  rw [Bool.not_eq_false, isParameter, Bool.or_eq_true] at hp
  rcases hp with hp | hp
  · have hdigit : c.toNat ≤ '9'.toNat := (Char.isDigit_iff_toNat.1 hp).2
    exact absurd (Nat.le_trans (toNat_ge_of_isAlpha h) hdigit) (by decide)
  · rw [eq_of_beq hp] at h
    exact absurd h (by decide)

theorem colourCodeLength_eq_some {t : Text} {n : Nat} : colourCodeLength t = some n ↔
    ∃ code rest, t = code ++ rest ∧ IsColourCode code ∧ n = code.length := by
  constructor
  · intro h
    unfold colourCodeLength at h
    split at h
    next rest =>
      split at h
      next c after hdrop =>
        split at h
        next hc =>
          cases h
          have hsplit := List.takeWhile_append_dropWhile (p := isParameter) (l := rest)
          rw [hdrop] at hsplit
          refine ⟨escape :: '[' :: rest.takeWhile isParameter ++ [c], after, ?_,
            ⟨_, c, rfl, fun p hp => ?_, hc⟩, by simp⟩
          · simp [escape, hsplit]
          · exact isParameter_iff.1 (List.mem_takeWhile_imp hp)
        next => cases h
      next => cases h
    next => cases h
  · rintro ⟨_, rest, rfl, ⟨parameters, letter, rfl, hparameters, hletter⟩, rfl⟩
    have hparameters : ∀ c ∈ parameters, isParameter c :=
      fun c hc => isParameter_iff.2 (hparameters c hc)
    have hend := not_parameter_of_isAlpha hletter
    have hdrop : (parameters ++ letter :: rest).dropWhile isParameter = letter :: rest := by
      rw [List.dropWhile_append_of_pos hparameters, List.dropWhile_cons_of_neg (by simp [hend])]
    have htake : (parameters ++ letter :: rest).takeWhile isParameter = parameters := by
      rw [List.takeWhile_append_of_pos hparameters, List.takeWhile_cons_of_neg (by simp [hend]),
        List.append_nil]
    have hshape : escape :: '[' :: parameters ++ [letter] ++ rest =
        escape :: '[' :: (parameters ++ letter :: rest) := by simp
    rw [hshape, escape, colourCodeLength, hdrop, htake]
    simp [hletter]

theorem colourCodeLength_eq_none {t : Text} :
    colourCodeLength t = none ↔ ∀ code rest, t = code ++ rest → ¬IsColourCode code := by
  constructor
  · intro h code rest hsplit hcode
    rw [colourCodeLength_eq_some.2 ⟨code, rest, hsplit, hcode, rfl⟩] at h
    cases h
  · intro h
    cases hlength : colourCodeLength t with
    | none => rfl
    | some n =>
      obtain ⟨code, rest, hsplit, hcode, -⟩ := colourCodeLength_eq_some.1 hlength
      exact absurd hcode (h code rest hsplit)

theorem stripFrom_drop (skip : Nat) (t : Text) : stripFrom skip t = stripColours (t.drop skip) := by
  induction t generalizing skip with
  | nil => simp [stripFrom, stripColours]
  | cons c t ih =>
    cases skip with
    | zero => rfl
    | succ skip => exact ih skip

theorem IsColourCode.ne_nil {code : Text} (h : IsColourCode code) : code ≠ [] := by
  obtain ⟨parameters, letter, rfl, -⟩ := h
  simp

theorem stripColours_code {code : Text} (h : IsColourCode code) (t : Text) :
    stripColours (code ++ t) = stripColours t := by
  have hlength := colourCodeLength_eq_some.2 ⟨code, t, rfl, h, rfl⟩
  obtain ⟨c, rest, rfl⟩ := List.exists_cons_of_ne_nil h.ne_nil
  rw [List.cons_append] at hlength ⊢
  rw [stripColours, stripFrom]
  simp only [hlength]
  rw [stripFrom_drop]
  simp

theorem stripColours_cons {c : Char} {t : Text} (h : colourCodeLength (c :: t) = none) :
    stripColours (c :: t) = c :: stripColours t := by
  rw [stripColours, stripFrom]
  simp only [h]
  rfl

/-- Induction along a text as it is stripped. -/
theorem strip_induction {motive : Text → Prop} (nil : motive [])
    (code : ∀ code t, IsColourCode code → motive t → motive (code ++ t))
    (char : ∀ c t, colourCodeLength (c :: t) = none → motive t → motive (c :: t)) (t : Text) :
    motive t := by
  induction hn : t.length using Nat.strong_induction_on generalizing t with
  | _ n ih =>
    cases t with
    | nil => exact nil
    | cons c t =>
      subst hn
      cases hl : colourCodeLength (c :: t) with
      | none => exact char c t hl (ih _ (by simp) t rfl)
      | some n =>
        obtain ⟨a, rest, ht, ha, -⟩ := colourCodeLength_eq_some.1 hl
        have hlt : rest.length < (c :: t).length := by
          rw [ht, List.length_append]
          have := List.length_pos_iff.2 ha.ne_nil
          omega
        rw [ht]
        exact code a rest ha (ih _ hlt rest rfl)

def barrier (c : Char) : Bool := c != '[' && !isParameter c && !c.isAlpha

/-- A text that cannot complete a colour code in front of it. -/
def Apart (t : Text) : Prop := ∀ c ∈ t.head?, barrier c

theorem IsColourCode.not_barrier {code : Text} {c : Char} (h : IsColourCode code)
    (hc : c ∈ code.tail) : barrier c = false := by
  obtain ⟨parameters, letter, rfl, hparameters, hletter⟩ := h
  have hc : c = '[' ∨ c ∈ parameters ∨ c = letter := by simpa using hc
  rcases hc with rfl | hc | rfl
  · decide
  · simp [barrier, isParameter_iff.2 (hparameters c hc)]
  · simp [barrier, hletter]

theorem IsColourCode.apart {code : Text} (h : IsColourCode code) (t : Text) : Apart (code ++ t) := by
  obtain ⟨parameters, letter, rfl, -⟩ := h
  intro c hc
  obtain rfl : escape = c := by simpa using hc
  decide

theorem colourCodeLength_append {t u : Text} (ht : t ≠ []) (hu : Apart u)
    (h : colourCodeLength t = none) : colourCodeLength (t ++ u) = none := by
  have hnot := colourCodeLength_eq_none.1 h
  cases hsum : colourCodeLength (t ++ u) with
  | none => rfl
  | some n =>
    obtain ⟨code, rest, hsplit, hcode, -⟩ := colourCodeLength_eq_some.1 hsum
    rcases List.append_eq_append_iff.1 hsplit with ⟨more, rfl, hmore⟩ | ⟨more, rfl, -⟩
    · cases more with
      | nil => exact absurd (List.append_nil t ▸ hcode) (hnot t [] (List.append_nil t).symm)
      | cons c more =>
        -- The character after `t` would belong to the code.
        have hc : c ∈ (t ++ c :: more).tail := by
          rw [List.tail_append_of_ne_nil ht]
          simp
        have hbarrier : barrier c := hu c (by simp [hmore])
        rw [hcode.not_barrier hc] at hbarrier
        cases hbarrier
    · exact absurd hcode (hnot code more rfl)

theorem stripColours_append {u : Text} (hu : Apart u) (t : Text) :
    stripColours (t ++ u) = stripColours t ++ stripColours u := by
  induction t using strip_induction with
  | nil => rfl
  | code a t ha ih =>
    rw [List.append_assoc, stripColours_code ha, stripColours_code ha, ih]
  | char c t hnone ih =>
    have hsum := colourCodeLength_append (List.cons_ne_nil c t) hu hnone
    rw [List.cons_append] at hsum ⊢
    rw [stripColours_cons hsum, stripColours_cons hnone, ih, List.cons_append]

theorem colourCodeLength_of_ne_escape {c : Char} (hc : c ≠ escape) (t : Text) :
    colourCodeLength (c :: t) = none := by
  unfold colourCodeLength
  split
  next heq => exact absurd (List.cons.inj heq).1 hc
  next => rfl

theorem stripColours_between {c : Char} (hc : barrier c) (hne : c ≠ escape) (t u : Text) :
    stripColours (t ++ c :: u) = stripColours t ++ c :: stripColours u := by
  rw [stripColours_append (fun d hd => by simp_all),
    stripColours_cons (colourCodeLength_of_ne_escape hne u)]

end ToolOutput

namespace Style

open ToolOutput

theorem isColourCode_opening (s : Style) : IsColourCode s.opening := by
  have hcode : s.code.all isParameter := by
    cases s <;> decide
  exact ⟨s.code, 'm', rfl, fun c hc => isParameter_iff.1 (List.all_eq_true.1 hcode c hc), by decide⟩

theorem isColourCode_reset : IsColourCode reset :=
  ⟨['0'], 'm', rfl, by simp, by decide⟩

theorem stripColours_replace (s : Style) (t : Text) :
    stripColours (Text.replace reset (reset ++ s.opening) t) = stripColours t := by
  induction hn : t.length using Nat.strong_induction_on generalizing t with
  | _ n ih =>
    rcases Text.replace_cases isColourCode_reset.ne_nil (reset ++ s.opening) t with
      h | ⟨u, v, ht, h⟩
    · rw [h]
    · have hlt : v.length < n := by
        rw [← hn, ht]
        simp [reset]
        omega
      rw [h, ht, List.append_assoc, stripColours_append (isColourCode_reset.apart _),
        stripColours_append (isColourCode_reset.apart _), stripColours_code isColourCode_reset,
        stripColours_code s.isColourCode_opening, ih v.length hlt v rfl,
        stripColours_code isColourCode_reset]

theorem stripColours_paint (s : Style) (t : Text) : stripColours (s.paint t) = stripColours t := by
  have hreset : stripColours reset = [] := by decide
  rw [paint, List.append_assoc, stripColours_code s.isColourCode_opening,
    stripColours_append (List.append_nil reset ▸ isColourCode_reset.apart []), stripColours_replace, hreset,
    List.append_nil]

-- A reset inside the text, and a code at its end that has no letter yet.
example : stripColours (mark.paint "a\x1b[0mb\x1b[3") = "ab\x1b[3".toList := by decide

end Style

namespace Rendering.Terminal

open ToolOutput

/-- A part of a line, with the style that it is shown in if there is one. -/
structure Span where
  style : Option Style
  text : Text

/-- Spans in a row, shown by something that knows what each style looks like. -/
def shown (ink : Style → Text → Text) (spans : List Span) : Text :=
  spans.flatMap fun span =>
    match span.style with
    | none => span.text
    | some style => ink style span.text

def shownLines (ink : Style → Text → Text) (lines : List (List Span)) : Text :=
  lines.flatMap fun spans => line (shown ink spans)

def summarySpans (count : Nat) : List (List Span) :=
  [[⟨some (if count = 0 then .success else .error), "Errors found: " ++ Text.decimal count⟩], []]

def headingSpans (r : Record) : List (List Span) :=
  [[⟨some .error, "Error:"⟩, ⟨none, ' ' :: r.error⟩],
    [⟨none, r.file.display ++ ":" ++ Text.decimal r.line⟩]]

def sourceSpans (r : Record) : List (List Span) :=
  if r.hasDistinctSource then
    [[⟨none, "Source: "⟩, match r.source with
      | some source => ⟨none, source.display⟩
      | none => ⟨some .dim, "<unknown>"⟩]]
  else []

def rowSpans (width line number : Nat) (text : Text) : List Span :=
  [⟨none, Text.rightAligned width (Text.decimal number) ++ ": "⟩,
    ⟨if number = line then some .mark else none, text⟩]

def excerptSpans (content : Text) (line : Nat) : List (List Span) :=
  match Excerpt.window line (Excerpt.rows content).length with
  | none => []
  | some (first, last) =>
    let shown := ((Excerpt.rows content).drop (first - 1)).take (last + 1 - first)
    (shown.zipIdx first).map fun (text, number) =>
      rowSpans (Text.decimal last).length line number text

def contentSpans (r : Record) : List (List Span) :=
  [[], [⟨some .header, "Content:"⟩]] ++ excerptSpans r.content r.line

def blockSpans (v : Verbosity) (r : Record) : List (List Span) :=
  headingSpans r ++ sourceSpans r ++ (if v.showsContent then contentSpans r else []) ++ [[]]

/-- The lines of a rendering before any formatter has shown them. -/
def layout (v : Verbosity) (r : Report) : List (List Span) :=
  summarySpans r.count ++ (if v.listsRecords then r.records.flatMap (blockSpans v) else [])

section Shown

variable (f : Formatter)

theorem summary_eq (count : Nat) :
    summary f count = (summarySpans count).map (line ∘ shown f.apply) := by
  simp [summary, summarySpans, shown]

theorem heading_eq (r : Record) : heading f r = (headingSpans r).map (line ∘ shown f.apply) := by
  simp [heading, headingSpans, shown]

theorem sourceLine_eq (r : Record) :
    sourceLine f r = (sourceSpans r).map (line ∘ shown f.apply) := by
  unfold sourceLine sourceSpans
  split
  · cases r.source <;> simp [shown]
  · rfl

theorem row_eq (width n number : Nat) (text : Text) :
    Excerpt.row (f.apply .mark) width n number text =
      shown f.apply (rowSpans width n number text) := by
  unfold Excerpt.row rowSpans
  split <;> simp [shown]

theorem contentPart_eq (r : Record) :
    contentPart f r = (contentSpans r).map (line ∘ shown f.apply) := by
  have hrows : Excerpt.render f r.content r.line =
      (excerptSpans r.content r.line).map (shown f.apply) := by
    unfold Excerpt.render Excerpt.renderWith excerptSpans
    cases Excerpt.window r.line (Excerpt.rows r.content).length with
    | none => rfl
    | some ends => simp [row_eq, Function.comp_def]
  simp [contentPart, contentSpans, hrows, shown]

theorem block_eq (v : Verbosity) (r : Record) :
    block f v r = (blockSpans v r).map (line ∘ shown f.apply) := by
  have hend : [line []] = ([[]] : List (List Span)).map (line ∘ shown f.apply) := rfl
  rw [block, blockSpans, heading_eq, sourceLine_eq, hend]
  split <;> simp only [List.map_append, List.map_nil, contentPart_eq]

theorem text_eq_shownLines (v : Verbosity) (r : Report) :
    text .terminal f v r = shownLines f.apply (layout v r) := by
  have hrender : render f v r = (layout v r).map (line ∘ shown f.apply) := by
    rw [render, layout, summary_eq, List.map_append]
    split
    · simp only [List.map_flatMap, ← block_eq]
    · rfl
  have htext : text .terminal f v r = (render f v r).flatten := rfl
  rw [htext, hrender, shownLines, List.flatMap_def]
  rfl

end Shown

def Faithful (spans : List Span) : Prop :=
  stripColours (shown Style.paint spans) = stripColours (shown (fun _ t => t) spans)

theorem faithful_nil : Faithful [] := rfl

theorem faithful_singleton (span : Span) : Faithful [span] := by
  unfold Faithful shown
  simp only [List.flatMap_cons, List.flatMap_nil, List.append_nil]
  cases span.style with
  | none => rfl
  | some style => exact style.stripColours_paint span.text

theorem faithful_after_blank (t : Text) (span : Span) : Faithful [⟨none, t ++ [' ']⟩, span] := by
  have hcut (ink : Style → Text → Text) : stripColours (shown ink [⟨none, t ++ [' ']⟩, span]) =
      stripColours t ++ ' ' :: stripColours (shown ink [span]) := by
    rw [← stripColours_between (by decide) (by decide)]
    simp [shown]
  rw [Faithful, hcut, hcut, faithful_singleton span]

theorem faithful_before_blank (span : Span) (t : Text) : Faithful [span, ⟨none, ' ' :: t⟩] := by
  have hcut (ink : Style → Text → Text) : stripColours (shown ink [span, ⟨none, ' ' :: t⟩]) =
      stripColours (shown ink [span]) ++ ' ' :: stripColours t := by
    rw [← stripColours_between (by decide) (by decide)]
    simp [shown]
  rw [Faithful, hcut, hcut, faithful_singleton span]

theorem faithful_row (width n number : Nat) (text : Text) :
    Faithful (rowSpans width n number text) := by
  have hblank : Text.rightAligned width (Text.decimal number) ++ ": ".toList =
      (Text.rightAligned width (Text.decimal number) ++ [':']) ++ [' '] := by simp
  rw [rowSpans, hblank]
  exact faithful_after_blank _ _

theorem faithful_summary (count : Nat) : ∀ spans ∈ summarySpans count, Faithful spans := by
  intro spans h
  rcases List.mem_pair.1 h with rfl | rfl
  · exact faithful_singleton _
  · exact faithful_nil

theorem faithful_heading (r : Record) : ∀ spans ∈ headingSpans r, Faithful spans := by
  intro spans h
  rcases List.mem_pair.1 h with rfl | rfl
  · exact faithful_before_blank _ _
  · exact faithful_singleton _

theorem faithful_source (r : Record) : ∀ spans ∈ sourceSpans r, Faithful spans := by
  intro spans h
  unfold sourceSpans at h
  split at h
  · obtain rfl := List.mem_singleton.1 h
    exact faithful_after_blank "Source:".toList _
  · cases h

theorem faithful_content (r : Record) : ∀ spans ∈ contentSpans r, Faithful spans := by
  intro spans h
  rcases List.mem_append.1 h with h | h
  · rcases List.mem_pair.1 h with rfl | rfl
    · exact faithful_nil
    · exact faithful_singleton _
  · unfold excerptSpans at h
    split at h
    · cases h
    · obtain ⟨⟨text, number⟩, -, rfl⟩ := List.mem_map.1 h
      exact faithful_row _ _ _ _

theorem faithful_block (v : Verbosity) (r : Record) : ∀ spans ∈ blockSpans v r, Faithful spans := by
  intro spans h
  simp only [blockSpans, List.mem_append, List.mem_singleton] at h
  rcases h with ((h | h) | h) | rfl
  · exact faithful_heading r spans h
  · exact faithful_source r spans h
  · split at h
    · exact faithful_content r spans h
    · cases h
  · exact faithful_nil

theorem faithful_layout (v : Verbosity) (r : Report) : ∀ spans ∈ layout v r, Faithful spans := by
  intro spans h
  rcases List.mem_append.1 h with h | h
  · exact faithful_summary r.count spans h
  · split at h
    · obtain ⟨record, -, h⟩ := List.mem_flatMap.1 h
      exact faithful_block v record spans h
    · cases h

theorem stripColours_shownLines {lines : List (List Span)} (h : ∀ spans ∈ lines, Faithful spans) :
    stripColours (shownLines Style.paint lines) = stripColours (shownLines (fun _ t => t) lines) := by
  induction lines with
  | nil => rfl
  | cons spans rest ih =>
    have hcut (ink : Style → Text → Text) : stripColours (shownLines ink (spans :: rest)) =
        stripColours (shown ink spans) ++ '\n' :: stripColours (shownLines ink rest) := by
      rw [← stripColours_between (by decide) (by decide)]
      simp [shownLines, line]
    rw [hcut, hcut, h spans List.mem_cons_self, ih fun s hs => h s (List.mem_cons_of_mem _ hs)]

/-- A plain rendering is its layout with the marked parts in tags. Without its codes, a rendering in
forced colours is the same layout with neither tags nor codes. -/
theorem colour_carries_no_text (terminal : Bool) (v : Verbosity) (r : Report) :
    text .terminal ⟨ColorMode.never.usesColor terminal⟩ v r = shownLines Style.plain (layout v r) ∧
      stripColours (text .terminal ⟨ColorMode.always.usesColor terminal⟩ v r) =
        stripColours (shownLines (fun _ t => t) (layout v r)) := by
  constructor
  · exact text_eq_shownLines ⟨false⟩ v r
  · rw [text_eq_shownLines]
    exact stripColours_shownLines (faithful_layout v r)

end Rendering.Terminal

end TemplateCheck
