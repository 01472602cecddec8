import TemplateCheck.Proofs.Colour

/-!
Stripping goes over a text once. It removes every code that stands there in one piece, and nothing
else. Where a code was written into the middle of another one, the outer code is not in one piece; the
inner one is removed, its two sides meet, and the outer code is left in the result. This is the only
way in which diagnostics can hold a colour code, and neither of the two streams can help the other to
one.
-/
namespace TemplateCheck.ToolOutput

open Style (escape)

variable {s t u : Text} {c : Char}

/-- The first text is the second one with colour codes put in anywhere. -/
inductive Laced : Text → Text → Prop where
  | nil : Laced [] []
  | char (c : Char) {t s : Text} (rest : Laced t s) : Laced (c :: t) (c :: s)
  | code {code t s : Text} (isCode : IsColourCode code) (rest : Laced t s) : Laced (code ++ t) s

/-- A colour code with at least one other code between its first and its last character. -/
def IsBrokenCode (t : Text) : Prop :=
  ∃ inside parameters letter, t = escape :: inside ++ [letter] ∧
    Laced inside ('[' :: parameters) ∧ inside ≠ '[' :: parameters ∧
    (∀ c ∈ parameters, c.isDigit ∨ c = ';') ∧ letter.isAlpha

def HoldsCode (t : Text) : Prop := ∃ code, IsColourCode code ∧ code <:+: t

def HoldsBrokenCode (t : Text) : Prop := ∃ broken, IsBrokenCode broken ∧ broken <:+: t

theorem laced_stripColours (t : Text) : Laced t (stripColours t) := by
  induction t using strip_induction with
  | nil => exact .nil
  | code a t ha ih =>
    rw [stripColours_code ha]
    exact .code ha ih
  | char c t hnone ih =>
    rw [stripColours_cons hnone]
    exact .char c ih

theorem Laced.append {t' s' : Text} (h : Laced t s) (h' : Laced t' s') :
    Laced (t ++ t') (s ++ s') := by
  induction h with
  | nil => exact h'
  | char c _ ih => exact .char c ih
  | code hcode _ ih =>
    rw [List.append_assoc]
    exact .code hcode ih

theorem Laced.length_le (h : Laced t s) : s.length ≤ t.length := by
  induction h with
  | nil => exact Nat.le_refl _
  | char c _ ih => simpa using ih
  | code _ _ ih =>
    rw [List.length_append]
    omega

theorem Laced.mem (h : Laced t s) (hc : c ∈ t) : c ∈ s ∨ ∃ code, IsColourCode code ∧ c ∈ code := by
  induction h with
  | nil => simp at hc
  | char d _ ih =>
    rcases List.mem_cons.1 hc with rfl | hc
    · exact .inl List.mem_cons_self
    · exact (ih hc).imp_left (List.mem_cons_of_mem d)
  | code hcode _ ih =>
    rcases List.mem_append.1 hc with hc | hc
    · exact .inr ⟨_, hcode, hc⟩
    · exact ih hc

theorem Laced.stripColours_append (h : Laced t s) (hs : escape ∉ s) (u : Text) :
    stripColours (t ++ u) = s ++ stripColours u := by
  induction h with
  | nil => rfl
  | char c _ ih =>
    rw [List.mem_cons, not_or] at hs
    rw [List.cons_append, stripColours_cons (colourCodeLength_of_ne_escape (Ne.symm hs.1) _),
      ih hs.2, List.cons_append]
  | code hcode _ ih => rw [List.append_assoc, stripColours_code hcode, ih hs]

/-- A stripped text can be cut anywhere; the text that it came from is cut accordingly. -/
theorem stripColours_eq_append {a b : Text} (h : stripColours t = a ++ b) :
    ∃ u v, t = u ++ v ∧ stripColours u = a ∧ stripColours v = b := by
  induction t using strip_induction generalizing a with
  | nil =>
    obtain ⟨rfl, rfl⟩ := List.append_eq_nil_iff.1 h.symm
    exact ⟨[], [], rfl, rfl, rfl⟩
  | code k t hk ih =>
    rw [stripColours_code hk] at h
    obtain ⟨u, v, rfl, hu, hv⟩ := ih h
    exact ⟨k ++ u, v, (List.append_assoc k u v).symm, by rw [stripColours_code hk, hu], hv⟩
  | char c t hnone ih =>
    cases a with
    | nil => exact ⟨[], c :: t, rfl, rfl, h⟩
    | cons d a =>
      rw [stripColours_cons hnone] at h
      obtain ⟨rfl, htail⟩ := List.cons.inj h
      obtain ⟨u, v, rfl, hu, hv⟩ := ih htail
      have hfirst : colourCodeLength (c :: u) = none := by
        cases hlength : colourCodeLength (c :: u) with
        | none => rfl
        | some n =>
          obtain ⟨code, rest, hsplit, hcode, hn⟩ := colourCodeLength_eq_some.1 hlength
          have hsome : colourCodeLength (c :: (u ++ v)) = some n := by
            refine colourCodeLength_eq_some.2 ⟨code, rest ++ v, ?_, hcode, hn⟩
            rw [← List.cons_append, hsplit, List.append_assoc]
          rw [hnone] at hsome
          cases hsome
      exact ⟨c :: u, v, rfl, by rw [stripColours_cons hfirst, hu], hv⟩

theorem stripColours_eq_cons (h : stripColours t = c :: s) :
    ∃ codes rest, t = codes ++ c :: rest ∧ Laced codes [] ∧
      colourCodeLength (c :: rest) = none ∧ stripColours rest = s := by
  induction t using strip_induction with
  | nil => cases h
  | code k t hk ih =>
    rw [stripColours_code hk] at h
    obtain ⟨codes, rest, rfl, hcodes, hnone, hs⟩ := ih h
    exact ⟨k ++ codes, rest, (List.append_assoc k codes _).symm, .code hk hcodes, hnone, hs⟩
  | char d t hnone ih =>
    rw [stripColours_cons hnone] at h
    obtain ⟨rfl, htail⟩ := List.cons.inj h
    exact ⟨[], t, rfl, .nil, hnone, htail⟩

theorem stripColours_eq_self_iff : stripColours t = t ↔ ¬HoldsCode t := by
  constructor
  · rintro h ⟨code, hcode, u, v, rfl⟩
    rw [List.append_assoc, stripColours_append (hcode.apart v), stripColours_code hcode] at h
    have hlength := congrArg List.length h
    have hu := (laced_stripColours u).length_le
    have hv := (laced_stripColours v).length_le
    have hpos := List.length_pos_iff.2 hcode.ne_nil
    simp only [List.length_append] at hlength
    omega
  · intro h
    induction t using strip_induction with
    | nil => rfl
    | code a t ha ih => exact absurd ⟨a, ha, List.infix_append' [] a t⟩ h
    | char c t hnone ih =>
      have htail : ¬HoldsCode t := by
        rintro ⟨code, hcode, hpart⟩
        exact h ⟨code, hcode, List.infix_cons hpart⟩
      rw [stripColours_cons hnone, ih htail]

theorem escape_not_mem_opened {parameters : Text} (h : ∀ c ∈ parameters, c.isDigit ∨ c = ';') :
    escape ∉ '[' :: parameters := by
  intro hmem
  rcases List.mem_cons.1 hmem with heq | hmem
  · exact absurd heq (by decide)
  · exact absurd (h escape hmem) (by decide)

/-- What may stand between the first and the last character of a code. -/
def inner (c : Char) : Bool := c == '[' || isParameter c

theorem inner_opened {parameters : Text} (h : ∀ c ∈ parameters, c.isDigit ∨ c = ';') :
    ∀ c ∈ '[' :: parameters, inner c := by
  intro c hc
  rcases List.mem_cons.1 hc with rfl | hc
  · rfl
  · simp [inner, isParameter_iff.2 (h c hc)]

theorem not_inner_of_isAlpha {c : Char} (h : c.isAlpha) : inner c = false := by
  have hbracket : (c == '[') = false := by
    rw [beq_eq_false_iff_ne]
    rintro rfl
    exact absurd h (by decide)
  rw [inner, hbracket, not_parameter_of_isAlpha h, Bool.or_false]

theorem Laced.dropWhile_inner (h : Laced t s) (hs : ∀ c ∈ s, inner c) (hne : t ≠ s) (u : Text) :
    ((t ++ u).dropWhile inner).head? = some escape := by
  induction h with
  | nil => exact absurd rfl hne
  | char c _ ih =>
    rw [List.forall_mem_cons] at hs
    rw [List.cons_append, List.dropWhile_cons_of_pos hs.1]
    refine ih hs.2 ?_
    rintro rfl
    exact hne rfl
  | code hcode _ _ =>
    obtain ⟨parameters, letter, rfl, -⟩ := hcode
    rw [List.append_assoc, List.cons_append, List.cons_append,
      List.dropWhile_cons_of_neg (by decide), List.head?_cons]

theorem colourCodeLength_of_broken {inside parameters : Text}
    (h : Laced inside ('[' :: parameters)) (hne : inside ≠ '[' :: parameters)
    (hparameters : ∀ c ∈ parameters, c.isDigit ∨ c = ';') (u : Text) :
    colourCodeLength (escape :: (inside ++ u)) = none := by
  cases hlength : colourCodeLength (escape :: (inside ++ u)) with
  | none => rfl
  | some n =>
    obtain ⟨code, rest, hsplit, ⟨others, letter, rfl, hothers, hletter⟩, -⟩ :=
      colourCodeLength_eq_some.1 hlength
    -- a code in one piece would come to its letter instead
    have htext : inside ++ u = ('[' :: others) ++ letter :: rest := by
      simpa using (List.cons.inj hsplit).2
    have hfirst := h.dropWhile_inner (inner_opened hparameters) hne u
    rw [htext, List.dropWhile_append_of_pos (inner_opened hothers),
      List.dropWhile_cons_of_neg (by simp [not_inner_of_isAlpha hletter]), List.head?_cons,
      Option.some.injEq] at hfirst
    rw [hfirst] at hletter
    exact absurd hletter (by decide)

theorem IsBrokenCode.stripColours_append (h : IsBrokenCode t) (u : Text) :
    ∃ code, IsColourCode code ∧ stripColours (t ++ u) = code ++ stripColours u := by
  obtain ⟨inside, parameters, letter, rfl, hlaced, hne, hparameters, hletter⟩ := h
  refine ⟨escape :: '[' :: parameters ++ [letter], ⟨parameters, letter, rfl, hparameters, hletter⟩, ?_⟩
  have hlast : letter ≠ escape := by
    rintro rfl
    exact absurd hletter (by decide)
  have hshape : escape :: inside ++ [letter] ++ u = escape :: (inside ++ letter :: u) := by simp
  rw [hshape, stripColours_cons (colourCodeLength_of_broken hlaced hne hparameters _),
    hlaced.stripColours_append (escape_not_mem_opened hparameters),
    stripColours_cons (colourCodeLength_of_ne_escape hlast u)]
  simp

theorem IsBrokenCode.apart (h : IsBrokenCode t) (u : Text) : Apart (t ++ u) := by
  obtain ⟨inside, parameters, letter, rfl, -⟩ := h
  intro c hc
  obtain rfl : escape = c := by simpa using hc
  decide

/-- A text that is stripped to a code holds a broken one. -/
theorem exists_broken_of_stripColours {code : Text} (hcode : IsColourCode code)
    (h : stripColours t = code) : HoldsBrokenCode t := by
  obtain ⟨parameters, letter, rfl, hparameters, hletter⟩ := hcode
  obtain ⟨front, rest, rfl, -, hnone, hrest⟩ := stripColours_eq_cons h
  obtain ⟨opened, tail, rfl, hopened, htail⟩ := stripColours_eq_append hrest
  obtain ⟨codes, after, rfl, hcodes, -, -⟩ := stripColours_eq_cons htail
  have hlaced : Laced (opened ++ codes) ('[' :: parameters) := by
    have hboth := (laced_stripColours opened).append hcodes
    rwa [hopened, List.append_nil] at hboth
  refine ⟨escape :: (opened ++ codes) ++ [letter],
    ⟨_, parameters, letter, rfl, hlaced, ?_, hparameters, hletter⟩, front, after, by simp⟩
  -- otherwise the first character that was kept would start a code
  intro hplain
  have hsome := colourCodeLength_eq_some.2 ⟨escape :: '[' :: parameters ++ [letter], after, rfl,
    ⟨parameters, letter, rfl, hparameters, hletter⟩, rfl⟩
  have htext : escape :: '[' :: parameters ++ [letter] ++ after =
      escape :: (opened ++ (codes ++ letter :: after)) := by
    rw [← List.append_assoc, hplain]
    simp
  rw [htext, hnone] at hsome
  cases hsome

theorem holdsCode_stripColours_iff : HoldsCode (stripColours t) ↔ HoldsBrokenCode t := by
  constructor
  · rintro ⟨code, hcode, before, after, h⟩
    rw [List.append_assoc] at h
    obtain ⟨u, v, rfl, -, hv⟩ := stripColours_eq_append h.symm
    obtain ⟨middle, w, rfl, hmiddle, -⟩ := stripColours_eq_append hv
    obtain ⟨broken, hbroken, hpart⟩ := exists_broken_of_stripColours hcode hmiddle
    exact ⟨broken, hbroken, hpart.trans ⟨u, w, by simp⟩⟩
  · rintro ⟨broken, hbroken, u, w, rfl⟩
    obtain ⟨code, hcode, hstrip⟩ := hbroken.stripColours_append w
    refine ⟨code, hcode, stripColours u, stripColours w, ?_⟩
    rw [List.append_assoc, List.append_assoc, stripColours_append (hbroken.apart w), hstrip]

theorem IsBrokenCode.escape_mem (h : IsBrokenCode t) : escape ∈ t := by
  obtain ⟨inside, parameters, letter, rfl, -⟩ := h
  simp

theorem IsColourCode.newline_not_mem {code : Text} (h : IsColourCode code) : '\n' ∉ code := by
  intro hmem
  have htail : '\n' ∈ code.tail := by
    obtain ⟨parameters, letter, rfl, -⟩ := h
    rcases List.mem_cons.1 hmem with heq | hmem
    · exact absurd heq (by decide)
    · exact hmem
  exact absurd (h.not_barrier htail) (by decide)

theorem IsBrokenCode.newline_not_mem (h : IsBrokenCode t) : '\n' ∉ t := by
  obtain ⟨inside, parameters, letter, rfl, hlaced, -, hparameters, hletter⟩ := h
  have hcode : IsColourCode (escape :: '[' :: parameters ++ [letter]) :=
    ⟨parameters, letter, rfl, hparameters, hletter⟩
  have houter := hcode.newline_not_mem
  intro hmem
  rcases List.mem_append.1 hmem with hmem | hmem
  · rcases List.mem_cons.1 hmem with heq | hmem
    · exact absurd heq (by decide)
    · rcases hlaced.mem hmem with hmem | ⟨code, hcode, hmem⟩
      · exact houter (by simp_all)
      · exact hcode.newline_not_mem hmem
  · exact houter (List.mem_append_right _ hmem)

theorem escape_not_mem_of_isBlank (h : Text.isBlank t) : escape ∉ t := by
  intro hmem
  exact absurd (List.all_eq_true.1 h escape hmem) (by decide)

/-- What holds no newline lies on one side of it. -/
theorem infix_newline_iff {a b : Text} (h : '\n' ∉ t) :
    t <:+: a ++ '\n' :: b ↔ t <:+: a ∨ t <:+: b := by
  -- a part that begins at the newline or in front of it ends there
  have hends : ∀ {front back : Text}, t = front ++ back → back <+: '\n' :: b → t = front := by
    rintro front back rfl hback
    cases back with
    | nil => exact List.append_nil front
    | cons c back =>
      obtain ⟨rfl, -⟩ := List.cons_prefix_cons.1 hback
      simp at h
  constructor
  · intro hpart
    rcases List.infix_append_iff.1 hpart with ha | hb | ⟨front, back, ht, hfront, hback⟩
    · exact .inl ha
    · rcases List.infix_cons_iff.1 hb with hback | hb
      · obtain rfl := hends (List.nil_append t).symm hback
        exact .inl List.nil_infix
      · exact .inr hb
    · rw [hends ht hback]
      exact .inl hfront.isInfix
  · rintro (ha | hb)
    · exact ha.trans (List.prefix_append a _).isInfix
    · exact (List.infix_cons hb).trans (List.suffix_append a _).isInfix

theorem not_holdsBrokenCode_of_isBlank (h : Text.isBlank t) : ¬HoldsBrokenCode t := by
  rintro ⟨broken, hbroken, hpart⟩
  exact escape_not_mem_of_isBlank h (hpart.subset hbroken.escape_mem)

theorem holdsBrokenCode_streams_iff (o : ToolOutput) :
    HoldsBrokenCode o.streams ↔ HoldsBrokenCode o.stderr ∨ HoldsBrokenCode o.stdout := by
  unfold streams
  split
  · next hstderr => simp [not_holdsBrokenCode_of_isBlank hstderr]
  · split
    · next hstdout => simp [not_holdsBrokenCode_of_isBlank hstdout]
    · constructor
      · rintro ⟨broken, hbroken, hpart⟩
        rcases (infix_newline_iff hbroken.newline_not_mem).1 hpart with hpart | hpart
        · exact .inl ⟨broken, hbroken, hpart⟩
        · exact .inr ⟨broken, hbroken, hpart⟩
      · rintro (⟨broken, hbroken, hpart⟩ | ⟨broken, hbroken, hpart⟩)
        · exact ⟨broken, hbroken, (infix_newline_iff hbroken.newline_not_mem).2 (.inl hpart)⟩
        · exact ⟨broken, hbroken, (infix_newline_iff hbroken.newline_not_mem).2 (.inr hpart)⟩

/-- Diagnostics are the streams without the codes that were put into them. They hold a code exactly if
a stream holds a broken one, and can be stripped again without a change exactly if none does. -/
theorem diagnostics_hold_broken_codes (o : ToolOutput) :
    Laced o.streams o.diagnostics ∧
    (HoldsCode o.diagnostics ↔ HoldsBrokenCode o.stderr ∨ HoldsBrokenCode o.stdout) ∧
    (stripColours o.diagnostics = o.diagnostics ↔
      ¬HoldsBrokenCode o.stderr ∧ ¬HoldsBrokenCode o.stdout) := by
  have hholds : HoldsCode o.diagnostics ↔ HoldsBrokenCode o.stderr ∨ HoldsBrokenCode o.stdout := by
    rw [diagnostics, holdsCode_stripColours_iff, holdsBrokenCode_streams_iff]
  refine ⟨laced_stripColours o.streams, hholds, ?_⟩
  rw [stripColours_eq_self_iff, hholds, not_or]

def brokenReset : ToolOutput where
  status := .exited 1
  stdout := "\x1b[\x1b[0m0m"
  stderr := []

theorem broken_reset_becomes_reset : brokenReset.diagnostics = Style.reset ∧
    HoldsCode brokenReset.diagnostics ∧
    stripColours brokenReset.diagnostics ≠ brokenReset.diagnostics := by
  have hreset : brokenReset.diagnostics = Style.reset := by decide
  exact ⟨hreset, ⟨Style.reset, Style.isColourCode_reset, hreset ▸ List.infix_rfl⟩, by decide⟩

end TemplateCheck.ToolOutput
