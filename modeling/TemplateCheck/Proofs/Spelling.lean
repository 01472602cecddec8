import Mathlib.Data.List.Basic
import Mathlib.Data.List.Induction
import Mathlib.Data.List.TakeWhile
import TemplateCheck.Path

/-!
A path is spelled by joining segments with slashes, and splitting the spelling gives the segments
back as long as none of them holds a slash. Everything else about `join`, `parent` and
`withExtension` is read off the segments, so no later module looks at characters.
-/
namespace TemplateCheck.Path

variable {p q : Path} {name : Text} {names segments : List Text}

def AllNames (names : List Text) : Prop := ∀ name ∈ names, isName name

instance (names : List Text) : Decidable (AllNames names) :=
  inferInstanceAs (Decidable (∀ name ∈ names, isName name))

theorem isName_iff : isName name ↔ name ≠ [] ∧ name ≠ dot ∧ name ≠ dotDot ∧ '/' ∉ name := by
  simp [isName, silent, and_assoc]

theorem not_silent_of_isName (h : isName name) : silent name = false := by
  simp only [isName, Bool.and_eq_true] at h
  simpa using h.1.1

theorem ne_dotDot_of_isName (h : isName name) : name ≠ dotDot := (isName_iff.1 h).2.2.1
theorem ne_nil_of_isName (h : isName name) : name ≠ [] := (isName_iff.1 h).1
theorem no_slash_of_isName (h : isName name) : '/' ∉ name := (isName_iff.1 h).2.2.2

theorem AllNames.no_slash (h : AllNames names) : ∀ name ∈ names, '/' ∉ name :=
  fun name hn => no_slash_of_isName (h name hn)

@[simp] theorem allNames_nil : AllNames [] := by simp [AllNames]
@[simp] theorem allNames_cons :
    AllNames (name :: names) ↔ isName name ∧ AllNames names := by simp [AllNames]
@[simp] theorem allNames_append {others : List Text} :
    AllNames (names ++ others) ↔ AllNames names ∧ AllNames others := by
  simp only [AllNames, List.mem_append]
  exact ⟨fun h => ⟨fun n hn => h n (.inl hn), fun n hn => h n (.inr hn)⟩,
    fun h n hn => hn.elim (h.1 n) (h.2 n)⟩

theorem exists_snoc {α : Type} {l : List α} (hne : l ≠ []) : ∃ before last, l = before ++ [last] :=
  ⟨_, _, (List.dropLast_append_getLast hne).symm⟩

theorem not_mem_of_mem_splitOn (separator : Char) (text : Text) :
    ∀ s ∈ text.splitOn separator, separator ∉ s := by
  induction text with
  | nil => simp
  | cons c rest ih =>
    rw [List.splitOn_cons_eq_if_modifyHead]
    split
    · simpa using ih
    · next hc =>
      obtain ⟨first, others, he⟩ := List.exists_cons_of_ne_nil (List.splitOn_ne_nil separator rest)
      rw [he] at ih ⊢
      have hc' : separator ≠ c := fun h => hc (by simp [← h])
      simp only [List.modifyHead_cons, List.mem_cons, forall_eq_or_imp] at ih ⊢
      exact ⟨by simp [hc', ih.1], ih.2⟩

theorem no_slash_of_mem_segments (p : Path) : ∀ s ∈ p.segments, '/' ∉ s :=
  not_mem_of_mem_splitOn '/' p.text

def ofSegments (segments : List Text) : Path := ⟨Text.join ['/'] segments⟩

theorem ofSegments_segments (p : Path) : ofSegments p.segments = p := by
  simp [ofSegments, Text.join, segments]

theorem segments_ofSegments (h : ∀ s ∈ segments, '/' ∉ s) (hne : segments ≠ []) :
    (ofSegments segments).segments = segments := List.splitOn_intercalate '/' h hne

private theorem join_cons_of_ne_nil {first : Text} (h : segments ≠ []) :
    Text.join ['/'] (first :: segments) = first ++ '/' :: Text.join ['/'] segments := by
  simp [Text.join, List.intercalate_cons_of_ne_nil h]

private theorem join_append_singleton (segments : List Text) (last : Text) :
    Text.join ['/'] (segments ++ [last]) =
      (if segments = [] then [] else Text.join ['/'] segments ++ ['/']) ++ last := by
  induction segments with
  | nil => simp [Text.join]
  | cons first rest ih =>
    rw [List.cons_append, join_cons_of_ne_nil (by simp), ih]
    by_cases hr : rest = []
    · simp [hr, Text.join]
    · simp [hr, join_cons_of_ne_nil hr]

theorem length_segments_le (p : Path) : p.segments.length ≤ p.text.length + 1 := by
  rw [segments]
  induction p.text with
  | nil => simp
  | cons c rest ih =>
    rw [List.splitOn_cons_eq_if_modifyHead]
    split
    · simpa using ih
    · simp only [List.length_modifyHead, List.length_cons]
      omega

theorem text_ofSegments_append (segments others : List Text) :
    ∃ tail, (ofSegments (segments ++ others)).text = (ofSegments segments).text ++ tail := by
  induction others using List.reverseRecOn with
  | nil => exact ⟨[], by simp⟩
  | append_singleton front last ih =>
    obtain ⟨tail, ht⟩ := ih
    simp only [ofSegments] at ht ⊢
    rw [← List.append_assoc, join_append_singleton]
    split
    · next hnil =>
      obtain ⟨rfl, -⟩ := List.append_eq_nil_iff.1 hnil
      exact ⟨last, rfl⟩
    · exact ⟨tail ++ '/' :: last, by simp [ht]⟩

/-- The segments that something is joined to: a slash at the end asks for no segment of its own. -/
def base (p : Path) : List Text :=
  if p.segments.getLast? = some [] then p.segments.dropLast else p.segments

theorem no_slash_of_mem_base : ∀ s ∈ p.base, '/' ∉ s := by
  intro s hs
  unfold base at hs
  split at hs
  · exact no_slash_of_mem_segments p s (List.dropLast_subset _ hs)
  · exact no_slash_of_mem_segments p s hs

private theorem segments_snoc (p : Path) :
    ∃ before last, p.segments = before ++ [last] := by
  exact exists_snoc (List.splitOn_ne_nil '/' p.text)

theorem ends_open_iff {before : List Text} {last : Text}
    (h : p.segments = before ++ [last]) :
    (p.text.isEmpty || p.text.getLast? == some '/') ↔ last = [] := by
  have ht : p.text = Text.join ['/'] (before ++ [last]) := by
    rw [← h]; exact (congrArg Path.text (ofSegments_segments p)).symm
  have hl : '/' ∉ last := no_slash_of_mem_segments p last (by simp [h])
  rw [ht, join_append_singleton]
  by_cases hlast : last = []
  · by_cases hb : before = [] <;> simp [hlast, hb]
  · have hg : last.getLast? ≠ some '/' := fun hg => hl (List.mem_of_getLast? hg)
    simp [hlast, List.getLast?_append, hg]

theorem join_eq (hs : '/' ∉ name) (p : Path) :
    p.join name = ofSegments (p.base ++ [name]) := by
  obtain ⟨before, last, h⟩ := segments_snoc p
  have ht : p.text = Text.join ['/'] (before ++ [last]) := by
    rw [← h]; exact (congrArg Path.text (ofSegments_segments p)).symm
  have hhead : (name.head? == some '/') = false := by
    cases name with
    | nil => rfl
    | cons c rest => simpa using fun hc : c = '/' => hs (by simp [hc])
  have hbase : p.base = if last = [] then before else before ++ [last] := by
    simp [base, h]
  unfold join
  rw [hhead, if_neg (by simp), hbase]
  by_cases hl : last = []
  · rw [if_pos ((ends_open_iff h).2 hl), if_pos hl]
    simp only [ofSegments, ht, join_append_singleton, hl]
    simp
  · rw [if_neg (mt (ends_open_iff h).1 hl), if_neg hl]
    simp only [ofSegments, ht, join_append_singleton (before ++ [last])]
    simp

theorem base_ofSegments_snoc (h : ∀ s ∈ segments, '/' ∉ s) (hn : isName name) :
    (ofSegments (segments ++ [name])).base = segments ++ [name] := by
  have hs : ∀ s ∈ segments ++ [name], '/' ∉ s := by
    simp only [List.mem_append, List.mem_singleton]
    rintro s (hs | rfl)
    · exact h s hs
    · exact no_slash_of_isName hn
  simp [base, segments_ofSegments hs, ne_nil_of_isName hn]

theorem joinAll_eq (h : AllNames names) (hne : names ≠ []) (p : Path) :
    p.joinAll names = ofSegments (p.base ++ names) := by
  induction names generalizing p with
  | nil => exact absurd rfl hne
  | cons name rest ih =>
    rw [allNames_cons] at h
    have hj := join_eq (no_slash_of_isName h.1) p
    by_cases hr : rest = []
    · simp [hr, joinAll, hj]
    · have := ih h.2 hr (p.join name)
      rw [joinAll, List.foldl_cons, ← joinAll, this, hj,
        base_ofSegments_snoc no_slash_of_mem_base h.1]
      simp

theorem ofNames_eq (hne : names ≠ []) : ofNames names = ofSegments ([] :: names) := by
  simp [ofNames, ofSegments, join_cons_of_ne_nil hne]

theorem segments_ofNames (h : AllNames names) (hne : names ≠ []) :
    (ofNames names).segments = [] :: names := by
  rw [ofNames_eq hne]
  refine segments_ofSegments ?_ (by simp)
  simpa using h.no_slash

@[simp] theorem segments_root : (ofNames []).segments = [[], []] := rfl

@[simp] theorem isAbsolute_ofNames : (ofNames names).isAbsolute := by simp [isAbsolute, ofNames]

theorem base_ofNames (h : AllNames names) : (ofNames names).base = [] :: names := by
  by_cases hne : names = []
  · subst hne; rfl
  · obtain ⟨before, last, rfl⟩ := exists_snoc hne
    have hl : last ≠ [] := ne_nil_of_isName (h last (by simp))
    simp only [base, segments_ofNames h hne, List.getLast?_cons, List.getLast?_append]
    simp [hl]

theorem fileName_ofNames (h : AllNames (names ++ [name])) :
    (ofNames (names ++ [name])).fileName = some name := by
  have hn : isName name := h name (by simp)
  have hspoken : (ofNames (names ++ [name])).spokenSegments = name :: names.reverse ++ [[]] := by
    simp [spokenSegments, segments_ofNames h, not_silent_of_isName hn]
  rw [fileName, hspoken]
  simp [ne_dotDot_of_isName hn]

theorem joinAll_ofNames {place : List Text} (hp : AllNames place) (h : AllNames names) :
    (ofNames place).joinAll names = ofNames (place ++ names) := by
  by_cases hne : names = []
  · simp [hne, joinAll]
  · rw [joinAll_eq h hne, base_ofNames hp, ofNames_eq (by simp [hne])]
    simp

theorem filterMap_componentOf (h : AllNames names) :
    names.filterMap componentOf = names.map Component.normal := by
  induction names with
  | nil => rfl
  | cons name rest ih =>
    rw [allNames_cons] at h
    have hc : componentOf name = some (.normal name) := by
      simp [componentOf, not_silent_of_isName h.1, ne_dotDot_of_isName h.1]
    simp [hc, ih h.2]

theorem components_ofNames (h : AllNames names) :
    (ofNames names).components = .root :: names.map .normal := by
  by_cases hne : names = []
  · subst hne; rfl
  · have hs := segments_ofNames h hne
    simp only [components, isAbsolute_ofNames, if_true, hs]
    rw [List.filterMap_cons_none (by simp [componentOf, silent]), filterMap_componentOf h]

theorem ofNames_injective {others : List Text} (h : AllNames names) (ho : AllNames others)
    (he : ofNames names = ofNames others) : names = others := by
  have hc := congrArg components he
  rw [components_ofNames h, components_ofNames ho] at hc
  exact List.map_injective_iff.2 (fun _ _ h => Component.normal.inj h) (List.cons.inj hc).2

theorem same_ofNames {others : List Text} (h : AllNames names) (ho : AllNames others) :
    (ofNames names).same (ofNames others) ↔ ofNames names = ofNames others := by
  simp only [same, beq_iff_eq, components_ofNames h, components_ofNames ho, List.cons.injEq,
    true_and]
  refine ⟨fun hm => ?_, fun he => by rw [ofNames_injective h ho he]⟩
  rw [List.map_injective_iff.2 (fun _ _ h => Component.normal.inj h) hm]

theorem isAbsolute_iff : p.isAbsolute ↔ ∃ second rest, p.segments = [] :: second :: rest := by
  obtain ⟨text⟩ := p
  cases text with
  | nil => simp [isAbsolute, segments]
  | cons c rest =>
    obtain ⟨first, others, he⟩ := List.exists_cons_of_ne_nil (List.splitOn_ne_nil '/' rest)
    simp only [isAbsolute, segments, List.splitOn_cons_eq_if_modifyHead, he]
    by_cases hc : c = '/' <;> simp [hc]

theorem isAbsolute_iff_of_segments {before tail : List Text} (h : p.segments = before ++ tail)
    (hne : tail ≠ []) (ht : tail.head? = some [] → tail = [[]]) :
    p.isAbsolute ↔ before.head? = some [] := by
  rw [isAbsolute_iff, h]
  cases before with
  | nil =>
    simp only [List.nil_append, List.head?_nil, reduceCtorEq, iff_false]
    rintro ⟨second, rest, he⟩
    have := ht (by simp [he])
    simp [he] at this
  | cons first others =>
    obtain ⟨second, rest, he⟩ := List.exists_cons_of_ne_nil (show others ++ tail ≠ [] by simp [hne])
    simp [he]

theorem segments_cases (p : Path) :
    (p.segments = p.base ++ [[]]) ∨
      ∃ before last, last ≠ [] ∧ p.segments = before ++ [last] ∧ p.base = before ++ [last] := by
  obtain ⟨before, last, h⟩ := segments_snoc p
  by_cases hl : last = []
  · exact .inl (by simp [base, h, hl])
  · exact .inr ⟨before, last, hl, h, by simp [base, h, hl]⟩

theorem base_ne_nil (h : p.text ≠ []) : p.base ≠ [] := by
  intro hb
  rcases segments_cases p with hp | ⟨before, last, -, -, hb'⟩
  · refine absurd ?_ h
    rw [← ofSegments_segments p, hp, hb]
    rfl
  · simp [hb] at hb'

theorem segments_after (h : ∀ s ∈ segments, '/' ∉ s) (hne : segments ≠ []) (p : Path) :
    (ofSegments (p.base ++ segments)).segments = p.base ++ segments := by
  refine segments_ofSegments (fun s hs => ?_) (by simp [hne])
  rcases List.mem_append.1 hs with hs | hs
  · exact no_slash_of_mem_base s hs
  · exact h s hs

theorem isAbsolute_after (h : ∀ s ∈ segments, '/' ∉ s) (hne : segments ≠ [])
    (hf : segments.head? ≠ some []) (p : Path) :
    (ofSegments (p.base ++ segments)).isAbsolute = p.isAbsolute := by
  have hs := segments_after h hne p
  rw [Bool.eq_iff_iff]
  rcases segments_cases p with hp | ⟨before, last, hl, hp, hb⟩
  · rw [isAbsolute_iff_of_segments hs hne fun he => absurd he hf,
      isAbsolute_iff_of_segments hp (by simp) (by simp)]
  · rw [hb, List.append_assoc] at hs
    rw [hb, List.append_assoc, isAbsolute_iff_of_segments hs (by simp) (by simp [hl]),
      isAbsolute_iff_of_segments hp (by simp) (by simp [hl])]

theorem AllNames.head?_ne (h : AllNames names) : names.head? ≠ some [] := by
  intro hf
  exact ne_nil_of_isName (h [] (List.mem_of_head? hf)) rfl

theorem text_ne_nil {before : List Text} {last : Text} (h : p.segments = before ++ [last])
    (hl : last ≠ []) : p.text ≠ [] := by
  intro ht
  rw [segments, ht, List.splitOn_nil] at h
  have hends := congrArg List.getLast? h
  simp [hl.symm] at hends

theorem segments_below (h : AllNames names) (hne : names ≠ []) (p : Path) :
    (ofSegments (p.base ++ names)).segments = p.base ++ names := segments_after h.no_slash hne p

theorem isAbsolute_below (h : AllNames names) (hne : names ≠ []) (p : Path) :
    (ofSegments (p.base ++ names)).isAbsolute = p.isAbsolute :=
  isAbsolute_after h.no_slash hne h.head?_ne p

theorem base_below (h : AllNames names) (hne : names ≠ []) (p : Path) :
    (ofSegments (p.base ++ names)).base = p.base ++ names := by
  obtain ⟨before, name, rfl⟩ := exists_snoc hne
  rw [allNames_append, allNames_cons] at h
  rw [← List.append_assoc, base_ofSegments_snoc _ h.2.1]
  intro s hs
  rcases List.mem_append.1 hs with hs | hs
  · exact no_slash_of_mem_base s hs
  · exact h.1.no_slash s hs

theorem text_below_ne_nil (h : AllNames names) (hne : names ≠ []) :
    (ofSegments (p.base ++ names)).text ≠ [] := by
  have hs := segments_below h hne p
  obtain ⟨before, name, rfl⟩ := exists_snoc hne
  rw [← List.append_assoc] at hs ⊢
  exact text_ne_nil hs (ne_nil_of_isName (h name (by simp)))

theorem parent_below {before : List Text} (h : AllNames (before ++ [name])) (hne : before ≠ [])
    (p : Path) : (ofSegments (p.base ++ (before ++ [name]))).parent =
      some (ofSegments (p.base ++ before)) := by
  have hn : isName name := h name (by simp)
  obtain ⟨front, last, rfl⟩ := exists_snoc hne
  have hlast : isName last := h last (by simp)
  have hspoken : (ofSegments (p.base ++ (front ++ [last] ++ [name]))).spokenSegments =
      name :: last :: (p.base ++ front).reverse := by
    rw [spokenSegments, segments_below h (by simp) p]
    simp [not_silent_of_isName hn]
  rw [parent, hspoken]
  simp [not_silent_of_isName hlast, ofSegments]

/-- A relative path of silent segments starts with a dot. -/
theorem head_base_of_silents (ht : p.text ≠ []) (hr : p.isAbsolute = false)
    (h : ∀ s ∈ p.base, silent s) : p.base.head? = some dot := by
  have hrelative : p.base.head? ≠ some [] := by
    intro hhead
    rcases segments_cases p with hp | ⟨before, last, hl, hp, hb⟩
    · have := (isAbsolute_iff_of_segments hp (by simp) (by simp)).2 hhead
      simp [hr] at this
    · rw [hb] at hhead
      have hbefore : before.head? = some [] := by
        cases before with
        | nil => simp [hl] at hhead
        | cons first rest => simpa using hhead
      have := (isAbsolute_iff_of_segments hp (by simp) (by simp [hl])).2 hbefore
      simp [hr] at this
  cases hb : p.base with
  | nil => exact absurd hb (base_ne_nil ht)
  | cons first rest =>
    have hfirst := h first (by simp [hb])
    rw [hb] at hrelative
    simpa [silent, show first ≠ [] by simpa using hrelative] using hfirst

/-- A path of one name below another one has that path as its parent, up to silent segments at the end
of it. -/
theorem parent_of_name (hn : isName name) (ht : p.text ≠ []) :
    ∃ kept silents, p.base = kept ++ silents ∧ (∀ s ∈ silents, silent s) ∧
      (∀ s ∈ kept.getLast?, silent s = false) ∧
      (ofSegments (p.base ++ [name])).parent = some (match kept with
        | [] => if p.isAbsolute then ⟨['/']⟩ else ⟨dot⟩
        | first :: rest => ofSegments (first :: rest)) := by
  have hall : AllNames [name] := by simp [hn]
  have hspoken : (ofSegments (p.base ++ [name])).spokenSegments = name :: p.base.reverse := by
    rw [spokenSegments, segments_below hall (by simp) p]
    simp [not_silent_of_isName hn]
  refine ⟨(p.base.reverse.dropWhile silent).reverse, (p.base.reverse.takeWhile silent).reverse,
    ?_, ?_, ?_, ?_⟩
  · rw [← List.reverse_append, List.takeWhile_append_dropWhile, List.reverse_reverse]
  · intro s hs
    exact List.mem_takeWhile_imp (List.mem_reverse.1 hs)
  · intro s hs
    rw [List.getLast?_reverse, ← List.find?_not_eq_head?_dropWhile] at hs
    simpa using List.find?_some hs
  · rw [parent, hspoken, isAbsolute_below hall (by simp)]
    cases hk : p.base.reverse.dropWhile silent with
    | nil =>
      have hsilent : ∀ s ∈ p.base, silent s := by
        intro s hs
        exact List.dropWhile_eq_nil_iff.1 hk s (List.mem_reverse.2 hs)
      cases ha : p.isAbsolute with
      | true => simp [hk]
      | false => simp [hk, List.getLast?_reverse, head_base_of_silents ht ha hsilent]
    | cons last front =>
      obtain ⟨first, rest, he⟩ := List.exists_cons_of_ne_nil
        (show (last :: front).reverse ≠ [] by simp)
      simp only [hk, he, ofSegments]

/-- A parent is spelled by segments at the front of the path, or afresh where none of them counts. -/
theorem parent_cases {up : Path} (h : p.parent = some up) :
    up.text = [] ∨ up = ofNames [] ∨ up = ⟨dot⟩ ∨ ∃ front last more, last ≠ [] ∧
      p.segments = front ++ last :: more ∧ up = ofSegments (front ++ [last]) := by
  rw [parent] at h
  cases hspoken : p.spokenSegments with
  | nil =>
    simp only [hspoken] at h
    split at h
    · simp at h
    · exact .inl (by rw [← Option.some.inj h])
  | cons name before =>
    simp only [hspoken] at h
    cases hkept : before.dropWhile silent with
    | nil =>
      simp only [hkept] at h
      split_ifs at h
      · exact .inr (.inl (Option.some.inj h).symm)
      · exact .inr (.inr (.inl (Option.some.inj h).symm))
      · exact .inl (by rw [← Option.some.inj h])
    | cons last front =>
      simp only [hkept] at h
      have hlast : silent last = false := by
        simpa [hkept] using List.head_dropWhile_not silent (l := before) (by simp [hkept])
      have hreverse : p.segments.reverse.takeWhile silent ++
          name :: (before.takeWhile silent ++ last :: front) = p.segments.reverse := by
        rw [← hkept, List.takeWhile_append_dropWhile, ← hspoken, spokenSegments,
          List.takeWhile_append_dropWhile]
      obtain ⟨more, hsegments⟩ : ∃ more, p.segments = front.reverse ++ last :: more := by
        refine ⟨(p.segments.reverse.takeWhile silent ++ name :: before.takeWhile silent).reverse, ?_⟩
        simpa using (congrArg List.reverse hreverse).symm
      refine .inr (.inr (.inr ⟨front.reverse, last, more, ?_, hsegments, ?_⟩))
      · rintro rfl
        simp [silent] at hlast
      · rw [← Option.some.inj h, ofSegments, List.reverse_cons]

/-- The last segment of a path does not show in its parent. -/
theorem parent_swap {before : List Text} {s t : Text} (hb : AllNames before)
    (hs : silent s = false ∧ '/' ∉ s) (ht : silent t = false ∧ '/' ∉ t) (p : Path) :
    (ofSegments (p.base ++ (before ++ [s]))).parent =
      (ofSegments (p.base ++ (before ++ [t]))).parent := by
  have hfacts : ∀ {r : Text}, silent r = false ∧ '/' ∉ r →
      (ofSegments (p.base ++ (before ++ [r]))).spokenSegments = r :: (p.base ++ before).reverse ∧
        (ofSegments (p.base ++ (before ++ [r]))).isAbsolute = p.isAbsolute := by
    rintro r ⟨hr, hslash⟩
    have hall : ∀ s ∈ before ++ [r], '/' ∉ s := by
      simp only [List.mem_append, List.mem_singleton]
      rintro s (h | rfl)
      · exact hb.no_slash s h
      · exact hslash
    refine ⟨?_, isAbsolute_after hall (by simp) ?_ p⟩
    · rw [spokenSegments, segments_after hall (by simp)]
      simp [hr]
    · cases before with
      | nil =>
        rintro hnil
        obtain rfl : r = [] := by simpa using hnil
        simp [silent] at hr
      | cons first rest => simpa using ne_nil_of_isName (allNames_cons.1 hb).1
  rw [parent, parent, (hfacts hs).1, (hfacts ht).1, (hfacts hs).2, (hfacts ht).2]

theorem isAbsolute_dot (p : Path) : (ofSegments (p.base ++ [dot])).isAbsolute = p.isAbsolute :=
  isAbsolute_after (by simp [dot]) (by simp) (by simp [dot]) p

theorem segments_dot (p : Path) : (ofSegments (p.base ++ [dot])).segments = p.base ++ [dot] :=
  segments_after (by simp [dot]) (by simp) p

theorem parent_dot (h : p.text ≠ []) : (ofSegments (p.base ++ [dot])).parent = p.parent := by
  have hspoken : (ofSegments (p.base ++ [dot])).spokenSegments = p.spokenSegments := by
    rw [spokenSegments, segments_dot, spokenSegments]
    rcases segments_cases p with hp | ⟨before, last, -, hp, hb⟩
    · simp [hp, silent]
    · simp [hp, hb, silent]
  have htext : (ofSegments (p.base ++ [dot])).text.isEmpty = p.text.isEmpty := by
    have hne : (ofSegments (p.base ++ [dot])).text ≠ [] := text_ne_nil (segments_dot p) (by simp [dot])
    rw [List.isEmpty_eq_false_iff.2 hne, List.isEmpty_eq_false_iff.2 h]
  rw [parent, parent, hspoken, isAbsolute_dot, htext]

def Spoken (segments : List Text) : Prop := ∀ s ∈ segments, silent s = false ∧ '/' ∉ s

theorem componentOf_ne_none {s : Text} (h : silent s = false) : componentOf s ≠ none := by
  by_cases hd : s = dotDot
  · simp [componentOf, hd, silent, dot, dotDot]
  · simp [componentOf, h, hd]

theorem AllNames.spoken (h : AllNames names) : Spoken names :=
  fun name hn => ⟨not_silent_of_isName (h name hn), h.no_slash name hn⟩

private theorem filterMap_segments (p : Path) :
    p.segments.filterMap componentOf = p.base.filterMap componentOf := by
  rcases segments_cases p with hp | ⟨before, last, -, hp, hb⟩
  · rw [hp, List.filterMap_append]
    simp [componentOf, silent]
  · rw [hp, hb]

private theorem head_dot_spoken (h : Spoken segments) (hne : segments ≠ []) (p : Path) :
    (p.base ++ segments).head? = some dot ↔ p.segments.head? = some dot := by
  obtain ⟨first, rest, rfl⟩ := List.exists_cons_of_ne_nil hne
  have hd : first ≠ dot := by
    rintro rfl
    simp [Spoken, silent] at h
  have hnil : ([] : Text) ≠ dot := by decide
  rcases segments_cases p with hp | ⟨before, last, -, hp, hb⟩
  · rw [hp]
    cases p.base <;> simp [hd, hnil]
  · rw [hp, hb]
    cases before <;> simp

theorem components_spoken (h : Spoken segments) (hne : segments ≠ []) (p : Path) :
    (ofSegments (p.base ++ segments)).components =
      p.components ++ segments.filterMap componentOf := by
  have hslash : ∀ s ∈ segments, '/' ∉ s := fun s hs => (h s hs).2
  have hhead : segments.head? ≠ some [] := by
    intro hf
    simpa [silent] using (h [] (List.mem_of_head? hf)).1
  simp only [components, segments_after hslash hne, isAbsolute_after hslash hne hhead, beq_iff_eq,
    head_dot_spoken h hne, List.filterMap_append, filterMap_segments p]
  split
  · simp
  · split <;> simp

theorem components_below (h : AllNames names) (hne : names ≠ []) (p : Path) :
    (ofSegments (p.base ++ names)).components = p.components ++ names.map .normal := by
  rw [components_spoken h.spoken hne, filterMap_componentOf h]

theorem components_dot (h : p.text ≠ []) :
    (ofSegments (p.base ++ [dot])).components = p.components := by
  have hhead : (p.base ++ [dot]).head? = p.segments.head? := by
    obtain ⟨first, rest, hb⟩ := List.exists_cons_of_ne_nil (base_ne_nil h)
    rcases segments_cases p with hp | ⟨before, last, -, hp, hb'⟩
    · simp [hp, hb]
    · simp [hp, ← hb', hb]
  simp only [components, segments_dot, isAbsolute_dot, hhead, List.filterMap_append,
    filterMap_segments p]
  simp [componentOf, silent]

end TemplateCheck.Path
