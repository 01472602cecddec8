import TemplateCheck.Proofs.Lookup

/-!
Each operation that succeeds puts one entry, so a disk only ever grows. Below a directory without
links it is also known which place the entry is put at.
-/
namespace TemplateCheck.Disk

open Path

variable {d d' : Disk} {place start : Place} {p : Path} {body : ByteArray}

theorem writeFrom_spec {budget : Nat} (h : d.writeFrom body budget start p = .ok d') :
    ∃ place, (d.get? place = none ∨ ∃ old, d.get? place = some (.file old)) ∧
      d' = d.put place (.file body) := by
  fun_induction d.writeFrom body budget start p with
  | case1 | case2 | case3 | case6 | case7 => simp at h
  | case4 budget start p directory name _ he => exact ⟨_, .inl he, (Except.ok.inj h).symm⟩
  | case5 budget start p directory name _ old he =>
    exact ⟨_, .inr ⟨old, he⟩, (Except.ok.inj h).symm⟩
  | case8 budget start p directory name _ target _ _ ih => exact ih h

theorem write_grows (h : d.write p body = .ok d') : Grows d d' := by
  unfold write at h
  split at h
  · simp at h
  · obtain ⟨place, hp, rfl⟩ := writeFrom_spec h
    exact grows_put_file hp

theorem makeDirectory_spec (h : d.makeDirectory p = .ok d') :
    ∃ place, d.get? place = none ∧ d' = d.put place .directory := by
  unfold makeDirectory at h
  split at h
  · simp at h
  · split at h
    · simp at h
    · simp at h
    · split at h
      · simp at h
      · next he => exact ⟨_, he, (Except.ok.inj h).symm⟩

/-- What making directories does to a disk: directories appear where nothing was. -/
structure Adds (d d' : Disk) : Prop where
  workdir : d'.workdir = d.workdir
  kept : ∀ {place entry}, d.get? place = some entry → d'.get? place = some entry
  added : ∀ {place}, d.get? place = none → d'.get? place = none ∨ d'.get? place = some .directory

theorem Adds.refl (d : Disk) : Adds d d := ⟨rfl, id, .inl⟩

theorem Adds.trans {d₁ d₂ d₃ : Disk} (h : Adds d₁ d₂) (k : Adds d₂ d₃) : Adds d₁ d₃ where
  workdir := k.workdir.trans h.workdir
  kept := fun he => k.kept (h.kept he)
  added := fun hn => by
    rcases h.added hn with hn | hd
    · exact k.added hn
    · exact .inr (k.kept hd)

theorem adds_put (h : d.get? place = none) : Adds d (d.put place .directory) := by
  have hne : place ≠ [] := by rintro rfl; simp at h
  refine ⟨rfl, ?_, ?_⟩
  · intro other entry ho
    have : other ≠ place := by rintro rfl; simp [h] at ho
    rw [get?_put_of_ne this, ho]
  · intro other ho
    by_cases hp : other = place
    · subst hp
      exact .inr (get?_put_self hne _)
    · exact .inl (by rw [get?_put_of_ne hp, ho])

theorem Adds.grows (h : Adds d d') : Grows d d' where
  workdir := h.workdir
  directory := h.kept
  file := fun hf => ⟨_, h.kept hf⟩
  link := by
    intro place target
    refine ⟨fun hl => ?_, h.kept⟩
    cases he : d.get? place with
    | none => rcases h.added he with hn | hn <;> simp [hn] at hl
    | some entry => rw [← hl, h.kept he]

theorem makeDirectory_adds (h : d.makeDirectory p = .ok d') : Adds d d' := by
  obtain ⟨place, hp, rfl⟩ := makeDirectory_spec h
  exact adds_put hp

theorem makeLineage_adds (paths : List Path) (d : Disk) : Adds d (d.makeLineage paths).2 := by
  induction paths generalizing d with
  | nil => exact .refl d
  | cons p ancestors ih =>
    rw [makeLineage]
    split
    · exact .refl d
    · split
      · next made he => exact makeDirectory_adds he
      · split
        · next fault d' he =>
          have := ih d
          rwa [he] at this
        · next d' he =>
          have hd : Adds d d' := by
            have := ih d
            rwa [he] at this
          split
          · next made hm => exact hd.trans (makeDirectory_adds hm)
          · exact hd
      · exact .refl d

section Approach

variable {before : List Text} {name : Text}

theorem last_segment (hs : p.segments = before ++ [name]) (hn : isName name) :
    p.segments.reverse.dropWhile (· = []) = name :: before.reverse := by
  simp [hs, ne_nil_of_isName hn]

theorem text_not_open (hs : p.segments = before ++ [name]) (hn : isName name) :
    (p.text.getLast? == some '/') = false := by
  have hopen := mt (ends_open_iff hs).1 (ne_nil_of_isName hn)
  simp only [Bool.or_eq_true, not_or, Bool.not_eq_true] at hopen
  exact hopen.2

theorem approach_eq (hs : p.segments = before ++ [name]) (hn : isName name) (budget : Nat)
    (start : Place) : d.approach budget start p =
      match d.follow budget (startOf start p) before with
      | .error fault => .error fault
      | .ok place =>
        if !d.holdsDirectory place then .error .notADirectory
        else if nameLimit < name.length then .error .nameTooLong
        else .ok (.name place name false) := by
  have hdot : ¬(name = dot ∨ name = dotDot) :=
    not_or.2 ⟨(isName_iff.1 hn).2.1, ne_dotDot_of_isName hn⟩
  rw [approach, last_segment hs hn]
  cases hf : d.follow budget (startOf start p) before with
  | error fault => simp only [List.reverse_reverse, hf]
  | ok place => simp only [List.reverse_reverse, hf, hdot, if_false, text_not_open hs hn]

/-- Nothing is written to a path that ends in a dot or two. -/
theorem write_dots {last : Text} (hs : p.segments = before ++ [last])
    (hl : last = dot ∨ last = dotDot) : d.write p body ≠ .ok d' := by
  have hne : last ≠ [] := by
    rintro rfl
    simp [dot, dotDot] at hl
  have happroach : ∀ {directory name slash},
      d.approach linkLimit d.workdir p ≠ .ok (.name directory name slash) := by
    intro directory name slash
    rw [approach, hs, List.reverse_append, List.reverse_singleton, List.singleton_append,
      List.dropWhile_cons_of_neg (by simpa using hne)]
    simp only [hl, if_true]
    split
    · simp
    · split <;> simp
  unfold write
  split
  · simp
  · rw [writeFrom]
    split
    · simp
    · simp
    · simp
    · next h => exact absurd h happroach

end Approach

section Below

/-! A root that leads to a directory with no links at or below it. -/

variable {root : Path} {names : List Text} {name : Text} {target : Place}

theorem follow_below (ground : d.Ground root place) (hn : AllNames names) :
    d.follow linkLimit (startOf d.workdir root) (root.base ++ names) = d.follow 0 place names :=
  follow_append (allNames_startOf d.workdir_names root) no_slash_of_mem_base
    ground.leads.follow ground.directory (ground.linkFree.descend hn)

theorem approach_below (ground : d.Ground root place) (hn : AllNames names) (hname : isName name) :
    d.approach linkLimit d.workdir (ofSegments (root.base ++ (names ++ [name]))) =
      match d.follow 0 place names with
      | .error fault => .error fault
      | .ok found =>
        if !d.holdsDirectory found then .error .notADirectory
        else if nameLimit < name.length then .error .nameTooLong
        else .ok (.name found name false) := by
  have hall : AllNames (names ++ [name]) := by simp [hn, hname]
  have hs := segments_below hall (by simp) root
  rw [← List.append_assoc] at hs
  have hstart : startOf d.workdir (ofSegments (root.base ++ (names ++ [name]))) =
      startOf d.workdir root := by
    simp [startOf, isAbsolute_below hall (by simp)]
  rw [← List.append_assoc] at hstart ⊢
  rw [approach_eq hs hname, hstart, follow_below ground hn]

theorem follow_zero_names (hl : LinkFreeAt d place) (hn : AllNames names)
    (h : d.follow 0 place names = .ok target) : target = place ++ names := by
  cases he : d.descend place names with
  | arrived found =>
    obtain rfl : found = target := by simpa [follow_arrived he] using h
    exact descend_names hn he
  | failed fault => simp [follow_failed he] at h
  | atLink directory target rest => exact absurd he (hl.descend hn _ _ _)

theorem approach_below_ok {goal : Goal} (ground : d.Ground root place) (hn : AllNames names)
    (hname : isName name)
    (h : d.approach linkLimit d.workdir (ofSegments (root.base ++ (names ++ [name]))) = .ok goal) :
    goal = .name (place ++ names) name false := by
  rw [approach_below ground hn hname] at h
  cases hf : d.follow 0 place names with
  | error fault => simp [hf] at h
  | ok found =>
    simp only [hf] at h
    split at h
    · simp at h
    · split at h
      · simp at h
      · rw [← follow_zero_names ground.linkFree hn hf, Except.ok.inj h]

/-- What is written below such a root is put at the place that the names spell. -/
theorem write_below (ground : d.Ground root place) (hn : AllNames names) (hne : names ≠ [])
    (h : d.write (ofSegments (root.base ++ names)) body = .ok d') :
    d' = d.put (place ++ names) (.file body) := by
  obtain ⟨before, name, rfl⟩ := exists_snoc hne
  simp only [allNames_append, allNames_cons, allNames_nil, and_true] at hn
  unfold write at h
  split at h
  · simp at h
  · rw [writeFrom] at h
    split at h
    · simp at h
    · simp at h
    · simp at h
    · next directory last ha =>
      obtain ⟨rfl, rfl, -⟩ := Goal.name.inj (approach_below_ok ground hn.1 hn.2 ha)
      rw [List.append_assoc] at h
      split at h
      · exact (Except.ok.inj h).symm
      · exact (Except.ok.inj h).symm
      · simp at h
      · next he => exact absurd he (ground.linkFree _ _)

end Below

end TemplateCheck.Disk
