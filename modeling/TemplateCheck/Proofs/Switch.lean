import TemplateCheck.Proofs.Colour

/-!
A history makes formatters and calls them. It is compared with what is left of it when one formatter
is alone: its own making and the calls on it. The two give the same answers unless a colouring
formatter is called while the newest one is plain; such a call gives its text back with nothing added.
-/
namespace TemplateCheck

theorem Text.length_le_replace {needle replacement : Text} (hneedle : needle ≠ [])
    (hlonger : needle.length ≤ replacement.length) (t : Text) :
    t.length ≤ (Text.replace needle replacement t).length := by
  induction hn : t.length using Nat.strong_induction_on generalizing t with
  | _ n ih =>
    rcases Text.replace_cases hneedle replacement t with h | ⟨u, v, ht, h⟩
    · rw [h, hn]
    · have hpos := List.length_pos_iff.2 hneedle
      have hlength : n = u.length + (needle.length + v.length) := by
        rw [← hn, ht, List.length_append, List.length_append]
      have hrest := ih v.length (by omega) v rfl
      rw [h, List.length_append, List.length_append]
      omega

theorem Style.length_lt_paint (s : Style) (t : Text) : t.length < (s.paint t).length := by
  have hreset : 0 < reset.length := by decide
  have hgrows := Text.length_le_replace (List.length_pos_iff.1 hreset)
    (by simp : reset.length ≤ (reset ++ s.opening).length) t
  rw [paint, List.length_append, List.length_append]
  omega

/-- A formatter is made, or an earlier one, known by its number, shows a text. -/
inductive Act where
  | create (terminal : Bool) (mode : ColorMode)
  | call (index : Nat) (style : Style) (text : Text)
  deriving DecidableEq, Repr

namespace Act

def formatter? : Act → Option Formatter
  | create terminal mode => some ⟨mode.usesColor terminal⟩
  | call .. => none

def created (acts : List Act) : List Formatter := acts.filterMap formatter?

/-- What a history is for one formatter alone, which then has the number 0. `made` formatters were
made before. -/
def aloneFrom (index made : Nat) : List Act → List Act
  | [] => []
  | create terminal mode :: acts =>
    if made = index then create terminal mode :: aloneFrom index (made + 1) acts
    else aloneFrom index (made + 1) acts
  | call i style text :: acts =>
    if i = index then call 0 style text :: aloneFrom index made acts else aloneFrom index made acts

def alone (index : Nat) (acts : List Act) : List Act := aloneFrom index 0 acts

/-- After the history the formatter would colour, and the newest formatter does not. -/
def Silenced (before : List Act) (index : Nat) : Prop :=
  (created before)[index]? = some ⟨true⟩ ∧ (created before).getLast? = some ⟨false⟩

theorem forall_calls_cons {P : List Act → Prop} {index : Nat} {a : Act} {acts : List Act} :
    (∀ before style text, before ++ [call index style text] <+: a :: acts → P before) ↔
      (∀ style text, a = call index style text → P []) ∧
        ∀ before style text, before ++ [call index style text] <+: acts → P (a :: before) := by
  constructor
  · intro h
    refine ⟨fun style text ha => h [] style text ?_, fun before style text hb => ?_⟩
    · simp [ha]
    · exact h (a :: before) style text (List.cons_prefix_cons.2 ⟨rfl, hb⟩)
  · rintro ⟨hhead, htail⟩ before style text hb
    cases before with
    | nil =>
      have ha : call index style text = a := (List.cons_prefix_cons.1 hb).1
      exact hhead style text ha.symm
    | cons b before =>
      obtain ⟨rfl, hrest⟩ := List.cons_prefix_cons.1 hb
      exact htail before style text hrest

end Act

namespace Palette

def step (p : Palette) : Act → Palette
  | .create terminal mode => p.make (mode.usesColor terminal)
  | .call .. => p

def after (p : Palette) (acts : List Act) : Palette := acts.foldl step p

/-- The calls of a history, each with the number of its formatter and the answer. -/
def transcript (p : Palette) : List Act → List (Nat × Option Text)
  | [] => []
  | .create terminal mode :: acts => (p.make (mode.usesColor terminal)).transcript acts
  | .call index style text :: acts => (index, p.apply index style text) :: p.transcript acts

/-- The answers that one formatter gives in the course of a history. -/
def answers (p : Palette) (index : Nat) (acts : List Act) : List (Option Text) :=
  ((p.transcript acts).filter (·.1 = index)).map Prod.snd

/-- The formatter with nothing beside it; nothing at all before it is made. -/
def only (p : Palette) (index : Nat) : Palette :=
  p.formatters[index]?.elim {} fun f => ⟨[f], f.usesColor⟩

def Mutes (p : Palette) (index : Nat) : Prop :=
  p.formatters[index]? = some ⟨true⟩ ∧ p.switch = false

variable {p : Palette} {index : Nat}

theorem step_formatters (p : Palette) (a : Act) :
    (p.step a).formatters = p.formatters ++ a.formatter?.toList := by
  cases a <;> simp [step, make, Act.formatter?]

theorem step_switch (p : Palette) (a : Act) :
    (p.step a).switch = (a.formatter?.map Formatter.usesColor).getD p.switch := by
  cases a <;> rfl

theorem only_make (p : Palette) (index : Nat) (usesColor : Bool) :
    (p.make usesColor).only index =
      if p.formatters.length = index then (p.only index).make usesColor else p.only index := by
  split
  case isTrue h =>
    subst h
    simp [only, make]
  case isFalse h =>
    by_cases hlt : index < p.formatters.length
    · simp [only, make, List.getElem?_append_left hlt]
    · have hout : (p.formatters ++ [(⟨usesColor⟩ : Formatter)]).length ≤ index := by
        simp only [List.length_append, List.length_singleton]
        omega
      have hnone : p.formatters[index]? = none := List.getElem?_eq_none (by omega)
      simp [only, make, hnone, List.getElem?_eq_none hout]

theorem apply_eq_some {f : Formatter} (hf : p.formatters[index]? = some f) (style : Style)
    (t : Text) : p.apply index style t = some (f.applyUnder p.switch style t) := by
  simp [apply, hf]

theorem apply_only {f : Formatter} (hf : p.formatters[index]? = some f) (style : Style) (t : Text) :
    (p.only index).apply 0 style t = some (f.apply style t) := by
  simp [only, hf, apply, Formatter.apply]

theorem Mutes.apply_eq (h : p.Mutes index) (style : Style) (t : Text) :
    p.apply index style t = some t := by
  simp [apply_eq_some h.1, h.2, Formatter.applyUnder]

theorem applyUnder_of_not_mutes {f : Formatter} (hf : p.formatters[index]? = some f)
    (h : ¬p.Mutes index) (style : Style) (t : Text) :
    f.applyUnder p.switch style t = f.apply style t := by
  obtain ⟨usesColor⟩ := f
  cases usesColor with
  | false => rfl
  | true =>
    have hon : p.switch = true := by
      by_contra hoff
      exact h ⟨hf, by simpa using hoff⟩
    simp [Formatter.apply, hon]

theorem apply_eq_only_iff (p : Palette) (index : Nat) (style : Style) (t : Text) :
    p.apply index style t = (p.only index).apply 0 style t ↔ ¬p.Mutes index := by
  cases hf : p.formatters[index]? with
  | none => simp [apply, only, Mutes, hf]
  | some f =>
    rw [apply_only hf]
    constructor
    · intro heq hmutes
      obtain rfl : f = ⟨true⟩ := by simpa [hf] using hmutes.1
      have hsame : t = style.paint t := by simpa [hmutes.apply_eq, Formatter.apply,
        Formatter.applyUnder] using heq
      exact absurd (congrArg List.length hsame) (style.length_lt_paint t).ne
    · intro hnot
      rw [apply_eq_some hf, applyUnder_of_not_mutes hf hnot]

theorem after_formatters (p : Palette) (acts : List Act) :
    (p.after acts).formatters = p.formatters ++ Act.created acts := by
  induction acts generalizing p with
  | nil => simp [after, Act.created]
  | cons a acts ih =>
    have hrun : (p.after (a :: acts)).formatters = (p.step a).formatters ++ Act.created acts := ih _
    cases hmade : a.formatter? <;> simp [hrun, step_formatters, Act.created, hmade]

theorem after_switch (p : Palette) (acts : List Act) :
    (p.after acts).switch = ((Act.created acts).getLast?.map Formatter.usesColor).getD p.switch := by
  induction acts generalizing p with
  | nil => simp [after, Act.created]
  | cons a acts ih =>
    have hrun : (p.after (a :: acts)).switch =
        ((Act.created acts).getLast?.map Formatter.usesColor).getD (p.step a).switch := ih _
    rw [hrun, step_switch]
    cases hmade : a.formatter? with
    | none => simp [Act.created, hmade]
    | some f =>
      cases hlast : (Act.created acts).getLast? <;>
        simp_all [Act.created, List.getLast?_cons]

theorem mutes_after_iff (before : List Act) (index : Nat) :
    (({} : Palette).after before).Mutes index ↔ Act.Silenced before index := by
  have hformatters : (({} : Palette).after before).formatters = Act.created before := by
    simp [after_formatters]
  have hswitch := after_switch {} before
  rw [Mutes, Act.Silenced, hformatters, hswitch]
  refine and_congr_right fun hmade => ?_
  cases hlast : (Act.created before).getLast? with
  | none => simp [List.getLast?_eq_none_iff.1 hlast] at hmade
  | some f => obtain ⟨usesColor⟩ := f; simp

theorem transcript_append (p : Palette) (acts rest : List Act) :
    p.transcript (acts ++ rest) = p.transcript acts ++ (p.after acts).transcript rest := by
  induction acts generalizing p with
  | nil => rfl
  | cons a acts ih =>
    cases a with
    | create terminal mode => exact ih _
    | call i style text => exact congrArg (_ :: ·) (ih p)

theorem answers_call (p : Palette) (index i : Nat) (style : Style) (text : Text) (acts : List Act) :
    p.answers index (.call i style text :: acts) =
      if i = index then p.apply i style text :: p.answers index acts else p.answers index acts := by
  by_cases h : i = index <;> simp [answers, transcript, h]

/-- A run and the run of one formatter alone go hand in hand, from any palette on: the lone palette
stays the part of the whole one that belongs to the formatter. -/
theorem answers_eq_only_iff (p : Palette) (index : Nat) (acts : List Act) :
    p.answers index acts =
        (p.only index).answers 0 (Act.aloneFrom index p.formatters.length acts) ↔
      ∀ before style text, before ++ [Act.call index style text] <+: acts →
        ¬(p.after before).Mutes index := by
  induction acts generalizing p with
  | nil => simp [answers, transcript, Act.aloneFrom]
  | cons a acts ih =>
    rw [Act.forall_calls_cons]
    cases a with
    | create terminal mode =>
      have hlength : (p.make (mode.usesColor terminal)).formatters.length =
          p.formatters.length + 1 := by simp [make]
      have hrest := ih (p.make (mode.usesColor terminal))
      rw [hlength, only_make] at hrest
      have hlone : (p.only index).answers 0
            (Act.aloneFrom index p.formatters.length (.create terminal mode :: acts)) =
          (if p.formatters.length = index then (p.only index).make (mode.usesColor terminal)
            else p.only index).answers 0 (Act.aloneFrom index (p.formatters.length + 1) acts) := by
        rw [Act.aloneFrom]
        split <;> rfl
      rw [hlone]
      refine hrest.trans ⟨fun h => ⟨?_, h⟩, And.right⟩
      rintro style text ⟨⟩
    | call i style text =>
      rw [answers_call, Act.aloneFrom]
      by_cases hi : i = index
      · subst hi
        rw [if_pos rfl, if_pos rfl, answers_call, if_pos rfl, List.cons.injEq, apply_eq_only_iff,
          ih p]
        exact and_congr_left' ⟨fun h _ _ _ => h, fun h => h style text rfl⟩
      · rw [if_neg hi, if_neg hi, ih p]
        simp [hi, after, step]

end Palette

/-- The row stands out: between tags if the formatter is plain, and otherwise between codes, with
nothing but codes added. -/
def Formatter.Marked (f : Formatter) (text shown : Text) : Prop :=
  if f.usesColor then
    Style.mark.opening <+: shown ∧ Style.reset <:+ shown ∧
      ToolOutput.stripColours shown = ToolOutput.stripColours text
  else shown = "<error>" ++ text ++ "</error>"

theorem Formatter.marked_apply (f : Formatter) (text : Text) :
    f.Marked text (f.apply .mark text) := by
  obtain ⟨usesColor⟩ := f
  cases usesColor with
  | false => rfl
  | true =>
    refine ⟨?_, List.suffix_append _ _, Style.stripColours_paint .mark text⟩
    exact (List.prefix_append _ _).trans (List.prefix_append _ _)

namespace Palette

/-- In every history, a formatter answers all its calls as it would alone exactly when none of them
is silenced. Each call on a formatter that was made is answered: a silenced one with its text as it
is, any other one as the formatter alone does, so that a marked row then stands out. -/
theorem answers_alone_iff_not_silenced (index : Nat) (acts : List Act) :
    (answers {} index acts = answers {} 0 (Act.alone index acts) ↔
      ∀ before style text, before ++ [Act.call index style text] <+: acts →
        ¬Act.Silenced before index) ∧
    ∀ before style text rest f, acts = before ++ Act.call index style text :: rest →
      (Act.created before)[index]? = some f →
        ∃ shown later, transcript {} acts = transcript {} before ++ (index, some shown) :: later ∧
          (Act.Silenced before index → shown = text ∧ shown ≠ f.apply style text) ∧
          (¬Act.Silenced before index →
            shown = f.apply style text ∧ (style = .mark → f.Marked text shown)) := by
  constructor
  · simp only [← mutes_after_iff]
    exact answers_eq_only_iff {} index acts
  · rintro before style text rest f rfl hmade
    have hf : (after {} before).formatters[index]? = some f := by
      simpa [after_formatters] using hmade
    have hcall := apply_eq_some hf style text
    refine ⟨f.applyUnder (after {} before).switch style text, (after {} before).transcript rest, ?_,
      fun hsilenced => ?_, fun hnot => ?_⟩
    · rw [transcript_append, transcript, hcall]
    · have hmutes := (mutes_after_iff before index).2 hsilenced
      have htext := Option.some.inj (hcall.symm.trans (hmutes.apply_eq style text))
      refine ⟨htext, fun halone => ?_⟩
      have hsame := (apply_eq_only_iff (after {} before) index style text).1
      exact hsame (by rw [hcall, apply_only hf, halone]) hmutes
    · have hnotMutes := mt (mutes_after_iff before index).1 hnot
      have halone := applyUnder_of_not_mutes hf hnotMutes style text
      refine ⟨halone, ?_⟩
      rintro rfl
      exact halone ▸ f.marked_apply text

def relit : List Act := [.create false .always, .create false .never, .create true .auto]

theorem answers_alone_iff_not_silenced_relit : ¬Act.Silenced relit 0 ∧
    ∃ shown later, transcript {} (relit ++ [.call 0 .mark "x"]) = (0, some shown) :: later ∧
      Formatter.Marked ⟨true⟩ "x" shown := by
  obtain ⟨halone, hcalls⟩ := answers_alone_iff_not_silenced 0 (relit ++ [.call 0 .mark "x"])
  have hlit : ¬Act.Silenced relit 0 := halone.1 (by decide) relit .mark "x" List.prefix_rfl
  obtain ⟨shown, later, hrun, -, hshown⟩ := hcalls relit .mark "x" [] ⟨true⟩ rfl (by decide)
  exact ⟨hlit, shown, later, hrun, (hshown hlit).2 rfl⟩

/-- A colouring formatter marks a row after a plain one was made. -/
def markAfterPlain : List Act :=
  [.create false .always, .create false .never, .call 0 .mark "x"]

theorem mark_after_plain_is_lost : answers {} 0 markAfterPlain = [some "x".toList] ∧
    answers {} 0 (Act.alone 0 markAfterPlain) = [some "\x1b[1;41;37mx\x1b[0m".toList] := by
  decide

end Palette
end TemplateCheck
