import TemplateCheck.Disk
import TemplateCheck.Proofs.Spelling

/-!
What a walk along segments depends on. A walk that does not fail is the same on every disk that has
grown from the first one, so a path that leads somewhere keeps leading there while a check adds
directories and writes files.
-/
namespace TemplateCheck.Disk

open Path

variable {d d' : Disk} {here place : Place} {segments : List Text} {segment : Text}

@[simp] theorem get?_root (d : Disk) : d.get? [] = some .directory := rfl

theorem get?_of_ne_nil (h : place ≠ []) : d.get? place = d.entries.lookup place := by
  simp [get?, h]

private theorem lookup_filter_ne {entries : List (Place × Entry)} {other : Place}
    (h : other ≠ place) : (entries.filter (·.1 ≠ place)).lookup other = entries.lookup other := by
  induction entries with
  | nil => rfl
  | cons first rest ih =>
    obtain ⟨key, entry⟩ := first
    by_cases hk : key = place
    · have : (other == key) = false := by simpa [hk] using h
      simp only [List.lookup_cons, this]
      rw [List.filter_cons_of_neg (by simp [hk]), ih]
    · rw [List.filter_cons_of_pos (by simp [hk]), List.lookup_cons, List.lookup_cons, ih]

theorem get?_put_self (h : place ≠ []) (entry : Entry) :
    (d.put place entry).get? place = some entry := by
  simp [get?_of_ne_nil h, put]

theorem get?_put_of_ne {other : Place} (h : other ≠ place) (entry : Entry) :
    (d.put place entry).get? other = d.get? other := by
  have hk : (other == place) = false := by simpa using h
  by_cases hn : other = []
  · simp [hn]
  · rw [get?_of_ne_nil hn, get?_of_ne_nil hn, put, List.lookup_cons, hk]
    exact lookup_filter_ne h

theorem mem_below {names : List Text} {entry : Entry} (hne : names ≠ [])
    (h : d.get? (place ++ names) = some entry) : (names, entry) ∈ d.below place := by
  rw [get?_of_ne_nil (by simp [hne])] at h
  obtain ⟨before, after, he, -⟩ := List.lookup_eq_some_iff.1 h
  refine List.mem_filterMap.2 ⟨(place ++ names, entry), by simp [he], ?_⟩
  simp [List.length_pos_of_ne_nil hne]

theorem holdsDirectory_iff : d.holdsDirectory place ↔ d.get? place = some .directory := by
  cases h : d.get? place with
  | none => simp [holdsDirectory, h]
  | some entry => cases entry <;> simp [holdsDirectory, h, Entry.isDirectory]

@[simp] theorem descend_nil : d.descend here [] = .arrived here := by simp [descend]

theorem descend_silent (h : silent segment) (rest : List Text) :
    d.descend here (segment :: rest) = d.descend here rest := by simp [descend, h]

theorem descend_silents (h : ∀ s ∈ segments, silent s) : d.descend here segments = .arrived here := by
  induction segments with
  | nil => simp
  | cons segment rest ih =>
    rw [List.forall_mem_cons] at h
    rw [descend_silent h.1, ih h.2]

theorem descend_dotDot (rest : List Text) :
    d.descend here (dotDot :: rest) = d.descend here.dropLast rest := by
  have h : silent dotDot = false := by decide
  simp [descend, h]

theorem descend_tooLong (h : isName segment) (hl : nameLimit < segment.length)
    (rest : List Text) : d.descend here (segment :: rest) = .failed .nameTooLong := by
  simp [descend, not_silent_of_isName h, ne_dotDot_of_isName h, hl]

theorem descend_name (h : isName segment) (hl : segment.length ≤ nameLimit)
    (rest : List Text) : d.descend here (segment :: rest) =
      match d.get? (here ++ [segment]) with
      | none => .failed .notFound
      | some .directory => d.descend (here ++ [segment]) rest
      | some (.file _) => if rest = [] then .arrived (here ++ [segment]) else .failed .notADirectory
      | some (.link target) => .atLink here target rest := by
  have hspoken : ¬silent segment := by simp [not_silent_of_isName h]
  rw [descend]
  exact (if_neg hspoken).trans ((if_neg (ne_dotDot_of_isName h)).trans (if_neg (Nat.not_lt.2 hl)))

theorem segment_cases (h : '/' ∉ segment) :
    silent segment ∨ segment = dotDot ∨
      isName segment ∧ (nameLimit < segment.length ∨ segment.length ≤ nameLimit) := by
  by_cases hs : silent segment
  · exact .inl hs
  · by_cases hd : segment = dotDot
    · exact .inr (.inl hd)
    · exact .inr (.inr ⟨by simp [isName, hs, hd, h], Nat.lt_or_ge _ _⟩)

/-- What a check does to a disk: entries are added and files get other bodies. Directories and links
stay, and no link is added. -/
structure Grows (d d' : Disk) : Prop where
  workdir : d'.workdir = d.workdir
  directory : ∀ {place}, d.get? place = some .directory → d'.get? place = some .directory
  file : ∀ {place body}, d.get? place = some (.file body) →
    ∃ body', d'.get? place = some (.file body')
  link : ∀ {place target}, d'.get? place = some (.link target) ↔ d.get? place = some (.link target)

theorem Grows.refl (d : Disk) : Grows d d := ⟨rfl, id, fun h => ⟨_, h⟩, Iff.rfl⟩

theorem Grows.trans {d₁ d₂ d₃ : Disk} (h : Grows d₁ d₂) (k : Grows d₂ d₃) : Grows d₁ d₃ where
  workdir := k.workdir.trans h.workdir
  directory := fun hd => k.directory (h.directory hd)
  file := fun hf => by
    obtain ⟨body, hb⟩ := h.file hf
    exact k.file hb
  link := k.link.trans h.link

theorem grows_put_file {body : ByteArray}
    (h : d.get? place = none ∨ ∃ old, d.get? place = some (.file old)) :
    Grows d (d.put place (.file body)) := by
  have hne : place ≠ [] := by rintro rfl; simp at h
  refine ⟨rfl, ?_, ?_, ?_⟩
  · intro other ho
    have : other ≠ place := by rintro rfl; simp [ho] at h
    rw [get?_put_of_ne this, ho]
  · intro other old ho
    by_cases hp : other = place
    · subst hp
      exact ⟨body, get?_put_self hne _⟩
    · exact ⟨old, by rw [get?_put_of_ne hp, ho]⟩
  · intro other target
    by_cases hp : other = place
    · subst hp
      rw [get?_put_self hne]
      rcases h with h | ⟨old, h⟩ <;> simp [h]
    · rw [get?_put_of_ne hp]

/-- A walk that does not fail meets the same entries on a disk that has grown. -/
theorem Grows.descend_eq (g : Grows d d') (hs : ∀ s ∈ segments, '/' ∉ s)
    (h : ∀ fault, d.descend here segments ≠ .failed fault) :
    d'.descend here segments = d.descend here segments := by
  induction segments generalizing here with
  | nil => simp
  | cons segment rest ih =>
    have hr : ∀ s ∈ rest, '/' ∉ s := fun s hm => hs s (List.mem_cons_of_mem _ hm)
    rcases segment_cases (hs segment (by simp)) with hsil | rfl | ⟨hn, hl | hl⟩
    · simp only [descend_silent hsil] at h ⊢
      exact ih hr h
    · simp only [descend_dotDot] at h ⊢
      exact ih hr h
    · exact absurd (descend_tooLong hn hl rest) (h _)
    · simp only [descend_name hn hl] at h ⊢
      cases he : d.get? (here ++ [segment]) with
      | none => simp [he] at h
      | some entry =>
        cases entry with
        | directory =>
          simp only [he] at h
          simp only [g.directory he]
          exact ih hr h
        | file body =>
          obtain ⟨body', hb⟩ := g.file he
          simp [hb]
        | link target => simp [g.link.2 he]

/-- What one segment does to a walk, whatever comes behind it. -/
inductive Turn (d : Disk) (here : Place) (segment : Text) : Prop where
  | on (next : Place) (names : AllNames here → AllNames next)
      (eq : ∀ rest, d.descend here (segment :: rest) = d.descend next rest)
  | fault (fault : Fault) (eq : ∀ rest, d.descend here (segment :: rest) = .failed fault)
  | file (body : ByteArray) (name : isName segment)
      (entry : d.get? (here ++ [segment]) = some (.file body))
      (last : d.descend here [segment] = .arrived (here ++ [segment]))
      (eq : ∀ rest, rest ≠ [] → d.descend here (segment :: rest) = .failed .notADirectory)
  | link (target : Path) (eq : ∀ rest, d.descend here (segment :: rest) = .atLink here target rest)

theorem turn (d : Disk) (here : Place) (h : '/' ∉ segment) : Turn d here segment := by
  rcases segment_cases h with hsil | rfl | ⟨hn, hl | hl⟩
  · exact .on here id fun rest => descend_silent hsil rest
  · exact .on here.dropLast (fun hh name hm => hh name (List.dropLast_subset _ hm)) descend_dotDot
  · exact .fault _ (descend_tooLong hn hl)
  · cases he : d.get? (here ++ [segment]) with
    | none => exact .fault .notFound fun rest => by rw [descend_name hn hl, he]
    | some entry =>
      cases entry with
      | directory =>
        exact .on (here ++ [segment]) (fun hh => by simp [hh, hn])
          fun rest => by rw [descend_name hn hl, he]
      | file body =>
        exact .file body hn he (by simp [descend_name hn hl, he])
          fun rest hr => by simp [descend_name hn hl, he, hr]
      | link target => exact .link target fun rest => by rw [descend_name hn hl, he]

/-- A walk that stops in front of a link stops there whatever comes behind. -/
theorem descend_append_atLink {directory : Place} {target : Path} {rest : List Text}
    (hs : ∀ s ∈ segments, '/' ∉ s) (h : d.descend here segments = .atLink directory target rest)
    (more : List Text) :
    d.descend here (segments ++ more) = .atLink directory target (rest ++ more) := by
  induction segments generalizing here with
  | nil => simp at h
  | cons segment others ih =>
    rw [List.forall_mem_cons] at hs
    rw [List.cons_append]
    cases turn d here hs.1 with
    | on next _ eq =>
      rw [eq] at h ⊢
      exact ih hs.2 h
    | fault _ eq => simp [eq] at h
    | file _ _ _ last eq =>
      by_cases ho : others = []
      · simp [ho, last] at h
      · simp [eq others ho] at h
    | link t eq =>
      rw [eq] at h ⊢
      obtain ⟨rfl, rfl, rfl⟩ := Descent.atLink.inj h
      rfl

theorem descend_append_failed {fault : Fault} (hs : ∀ s ∈ segments, '/' ∉ s)
    (h : d.descend here segments = .failed fault) (more : List Text) :
    d.descend here (segments ++ more) = .failed fault := by
  induction segments generalizing here with
  | nil => simp at h
  | cons segment others ih =>
    rw [List.forall_mem_cons] at hs
    rw [List.cons_append]
    cases turn d here hs.1 with
    | on next _ eq =>
      rw [eq] at h ⊢
      exact ih hs.2 h
    | fault _ eq => rw [eq] at h ⊢; exact h
    | file _ _ _ last eq =>
      by_cases ho : others = []
      · simp [ho, last] at h
      · rw [eq others ho] at h
        rw [eq _ (by simp [ho]), h]
    | link _ eq => simp [eq] at h

/-- A walk that arrives goes on from there, unless it arrives at a file. -/
theorem descend_append_arrived (hs : ∀ s ∈ segments, '/' ∉ s)
    (h : d.descend here segments = .arrived place) (more : List Text) :
    d.descend here (segments ++ more) = d.descend place more ∨
      (∃ body, d.get? place = some (.file body)) ∧
        d.descend here (segments ++ more) = .failed .notADirectory := by
  induction segments generalizing here with
  | nil =>
    obtain rfl : here = place := by simpa using h
    exact .inl rfl
  | cons segment others ih =>
    rw [List.forall_mem_cons] at hs
    rw [List.cons_append]
    cases turn d here hs.1 with
    | on next _ eq =>
      rw [eq] at h ⊢
      exact ih hs.2 h
    | fault _ eq => simp [eq] at h
    | link _ eq => simp [eq] at h
    | file body _ entry last eq =>
      by_cases ho : others = []
      · subst ho
        obtain rfl : here ++ [segment] = place := by simpa [last] using h
        by_cases hm : more = []
        · exact .inl (by simp [hm, last])
        · exact .inr ⟨⟨body, entry⟩, eq _ (by simp [hm])⟩
      · simp [eq others ho] at h

theorem descend_append (hs : ∀ s ∈ segments, '/' ∉ s)
    (h : d.descend here segments = .arrived place) (hd : d.get? place = some .directory)
    (more : List Text) : d.descend here (segments ++ more) = d.descend place more := by
  rcases descend_append_arrived hs h more with he | ⟨⟨body, hf⟩, -⟩
  · exact he
  · simp [hd] at hf

theorem descend_names {names : List Text} (hn : AllNames names)
    (h : d.descend here names = .arrived place) : place = here ++ names := by
  induction names generalizing here with
  | nil => simpa using h.symm
  | cons name rest ih =>
    rw [allNames_cons] at hn
    rcases Nat.lt_or_ge nameLimit name.length with hl | hl
    · simp [descend_tooLong hn.1 hl] at h
    · rw [descend_name hn.1 hl] at h
      split at h
      · simp at h
      · simpa using ih hn.2 h
      · by_cases hr : rest = []
        · simpa [hr] using h.symm
        · simp [hr] at h
      · simp at h

theorem follow_arrived (h : d.descend here segments = .arrived place) (budget : Nat) :
    d.follow budget here segments = .ok place := by
  rw [follow.eq_def]
  simp only [h]

theorem follow_failed {fault : Fault} (h : d.descend here segments = .failed fault) (budget : Nat) :
    d.follow budget here segments = .error fault := by
  rw [follow.eq_def]
  simp only [h]

theorem follow_atLink_zero {directory : Place} {target : Path} {rest : List Text}
    (h : d.descend here segments = .atLink directory target rest) :
    d.follow 0 here segments = .error .tooManyLinks := by
  rw [follow.eq_def]
  simp only [h]

theorem follow_atLink_succ {directory : Place} {target : Path} {rest : List Text}
    (h : d.descend here segments = .atLink directory target rest) (budget : Nat) :
    d.follow (budget + 1) here segments =
      d.follow budget (startOf directory target) (target.segments ++ rest) := by
  rw [follow.eq_def]
  simp only [h]

theorem descend_cases (d : Disk) (hh : AllNames here) (hs : ∀ s ∈ segments, '/' ∉ s) :
    (∃ place, d.descend here segments = .arrived place ∧ AllNames place) ∨
    (∃ fault, d.descend here segments = .failed fault) ∨
    ∃ directory target rest, d.descend here segments = .atLink directory target rest ∧
      AllNames directory ∧ ∀ s ∈ rest, '/' ∉ s := by
  induction segments generalizing here with
  | nil => exact .inl ⟨here, by simp, hh⟩
  | cons segment rest ih =>
    rw [List.forall_mem_cons] at hs
    cases turn d here hs.1 with
    | on next names eq =>
      rw [eq]
      exact ih (names hh) hs.2
    | fault fault eq => exact .inr (.inl ⟨fault, eq rest⟩)
    | file body name _ last eq =>
      by_cases hr : rest = []
      · exact .inl ⟨here ++ [segment], hr ▸ last, by simp [hh, name]⟩
      · exact .inr (.inl ⟨.notADirectory, eq rest hr⟩)
    | link target eq => exact .inr (.inr ⟨here, target, rest, eq rest, hh, hs.2⟩)

theorem allNames_startOf {directory : Place} (h : AllNames directory) (p : Path) :
    AllNames (startOf directory p) := by
  unfold startOf
  split
  · simp
  · exact h

private theorem no_slash_append {p : Path} {rest : List Text} (h : ∀ s ∈ rest, '/' ∉ s) :
    ∀ s ∈ p.segments ++ rest, '/' ∉ s := by
  intro s hs
  rcases List.mem_append.1 hs with hs | hs
  · exact no_slash_of_mem_segments p s hs
  · exact h s hs

/-- What holds of every walk that arrives holds of every look-up that succeeds, if it passes through
the links on the way. -/
theorem follow_induction {P : Nat → Place → List Text → Prop}
    (arrived : ∀ {budget here segments}, AllNames here → (∀ s ∈ segments, '/' ∉ s) →
      d.descend here segments = .arrived place → AllNames place → P budget here segments)
    (link : ∀ {budget here segments directory target rest}, AllNames here →
      (∀ s ∈ segments, '/' ∉ s) → d.descend here segments = .atLink directory target rest →
      P budget (startOf directory target) (target.segments ++ rest) → P (budget + 1) here segments)
    {budget : Nat} (hh : AllNames here) (hs : ∀ s ∈ segments, '/' ∉ s)
    (h : d.follow budget here segments = .ok place) : P budget here segments := by
  induction budget generalizing here segments with
  | zero =>
    obtain ⟨p, he, hp⟩ | ⟨fault, he⟩ | ⟨dir, t, rest, he, -, -⟩ := descend_cases d hh hs
    · obtain rfl : p = place := by simpa [follow_arrived he] using h
      exact arrived hh hs he hp
    · simp [follow_failed he] at h
    · simp [follow_atLink_zero he] at h
  | succ budget ih =>
    obtain ⟨p, he, hp⟩ | ⟨fault, he⟩ | ⟨dir, t, rest, he, hd, hr⟩ := descend_cases d hh hs
    · obtain rfl : p = place := by simpa [follow_arrived he] using h
      exact arrived hh hs he hp
    · simp [follow_failed he] at h
    · rw [follow_atLink_succ he] at h
      exact link hh hs he (ih (allNames_startOf hd t) (no_slash_append hr) h)

theorem follow_names {budget : Nat} (hh : AllNames here) (hs : ∀ s ∈ segments, '/' ∉ s)
    (h : d.follow budget here segments = .ok place) : AllNames place :=
  follow_induction (P := fun _ _ _ => AllNames place) (fun _ _ _ hp => hp) (fun _ _ _ hp => hp)
    hh hs h

theorem Grows.follow_eq (g : Grows d d') {budget : Nat} (hh : AllNames here)
    (hs : ∀ s ∈ segments, '/' ∉ s) (h : d.follow budget here segments = .ok place) :
    d'.follow budget here segments = .ok place := by
  refine follow_induction (P := fun budget here segments => d'.follow budget here segments = .ok place)
    ?_ ?_ hh hs h
  · intro budget here segments _ hs he _
    have he' : d'.descend here segments = .arrived place := by
      rw [g.descend_eq hs (by simp [he]), he]
    exact follow_arrived he' budget
  · intro budget here segments directory target rest _ hs he ih
    have he' : d'.descend here segments = .atLink directory target rest := by
      rw [g.descend_eq hs (by simp [he]), he]
    rw [follow_atLink_succ he', ih]

theorem follow_congr {other : Place} {others : List Text}
    (h : d.descend here segments = d.descend other others) (budget : Nat) :
    d.follow budget here segments = d.follow budget other others := by
  rw [follow.eq_def d budget here segments, follow.eq_def d budget other others]
  simp only [h]

theorem linksLeft_arrived (h : d.descend here segments = .arrived place) (budget : Nat) :
    d.linksLeft budget here segments = budget := by
  cases budget with
  | zero => rfl
  | succ budget => simp only [linksLeft, h]

theorem linksLeft_atLink {directory : Place} {target : Path} {rest : List Text}
    (h : d.descend here segments = .atLink directory target rest) (budget : Nat) :
    d.linksLeft (budget + 1) here segments =
      d.linksLeft budget (startOf directory target) (target.segments ++ rest) := by
  simp only [linksLeft, h]

theorem follow_append_left {budget : Nat} (hh : AllNames here) (hs : ∀ s ∈ segments, '/' ∉ s)
    (h : d.follow budget here segments = .ok place) (hd : d.get? place = some .directory)
    (more : List Text) : d.follow budget here (segments ++ more) =
      d.follow (d.linksLeft budget here segments) place more := by
  refine follow_induction (P := fun budget here segments => d.follow budget here (segments ++ more) =
    d.follow (d.linksLeft budget here segments) place more) ?_ ?_ hh hs h
  · intro budget here segments _ hs he _
    rw [linksLeft_arrived he]
    exact follow_congr (descend_append hs he hd more) budget
  · intro budget here segments directory target rest _ hs he ih
    rw [follow_atLink_succ (descend_append_atLink hs he more), ← List.append_assoc, ih,
      linksLeft_atLink he]

theorem follow_append {budget : Nat} {more : List Text} (hh : AllNames here)
    (hs : ∀ s ∈ segments, '/' ∉ s) (h : d.follow budget here segments = .ok place)
    (hd : d.get? place = some .directory)
    (hm : ∀ directory target rest, d.descend place more ≠ .atLink directory target rest) :
    d.follow budget here (segments ++ more) = d.follow 0 place more := by
  rw [follow_append_left hh hs h hd]
  cases hmore : d.descend place more with
  | arrived other => rw [follow_arrived hmore, follow_arrived hmore]
  | failed fault => rw [follow_failed hmore, follow_failed hmore]
  | atLink directory target rest => exact absurd hmore (hm _ _ _)

theorem Grows.linksLeft_eq (g : Grows d d') {budget : Nat} (hh : AllNames here)
    (hs : ∀ s ∈ segments, '/' ∉ s) (h : d.follow budget here segments = .ok place) :
    d'.linksLeft budget here segments = d.linksLeft budget here segments := by
  refine follow_induction (P := fun budget here segments =>
    d'.linksLeft budget here segments = d.linksLeft budget here segments) ?_ ?_ hh hs h
  · intro budget here segments _ hs he _
    have he' : d'.descend here segments = .arrived place := by
      rw [g.descend_eq hs (by simp [he]), he]
    rw [linksLeft_arrived he, linksLeft_arrived he']
  · intro budget here segments directory target rest _ hs he ih
    have he' : d'.descend here segments = .atLink directory target rest := by
      rw [g.descend_eq hs (by simp [he]), he]
    rw [linksLeft_atLink he, linksLeft_atLink he', ih]

/-- Silent segments at the end ask for nothing new. -/
theorem follow_of_append_silents {budget : Nat} {silents : List Text} (hh : AllNames here)
    (hs : ∀ s ∈ segments, '/' ∉ s) (hsilent : ∀ s ∈ silents, silent s)
    (h : d.follow budget here (segments ++ silents) = .ok place) :
    d.follow budget here segments = .ok place := by
  -- only a link uses up the budget, so the other two ends of a walk are treated once
  have harrived : ∀ {budget here segments found}, (∀ s ∈ segments, '/' ∉ s) →
      d.descend here segments = .arrived found →
      d.follow budget here (segments ++ silents) = .ok place →
      d.follow budget here segments = .ok place := by
    intro budget here segments found hs he h
    rw [follow_arrived he]
    rcases descend_append_arrived hs he silents with he' | ⟨-, he'⟩
    · rw [descend_silents hsilent] at he'
      rwa [follow_arrived he'] at h
    · simp [follow_failed he'] at h
  induction budget generalizing here segments with
  | zero =>
    obtain ⟨p, he, -⟩ | ⟨fault, he⟩ | ⟨dir, t, rest, he, -, -⟩ := descend_cases d hh hs
    · exact harrived hs he h
    · simp [follow_failed (descend_append_failed hs he silents)] at h
    · simp [follow_atLink_zero (descend_append_atLink hs he silents)] at h
  | succ budget ih =>
    obtain ⟨p, he, -⟩ | ⟨fault, he⟩ | ⟨dir, t, rest, he, hd, hr⟩ := descend_cases d hh hs
    · exact harrived hs he h
    · simp [follow_failed (descend_append_failed hs he silents)] at h
    · rw [follow_atLink_succ (descend_append_atLink hs he silents), ← List.append_assoc] at h
      rw [follow_atLink_succ he]
      exact ih (allNames_startOf hd t) (no_slash_append hr) h

section Resolve

variable {p q c : Path} {names : List Text}

theorem resolve_eq_ok : d.resolve p = .ok place ↔
    spellingFault p = none ∧ d.follow linkLimit (startOf d.workdir p) p.segments = .ok place := by
  cases h : spellingFault p <;> simp [resolve, h]

theorem text_ne_nil_of_resolve (h : d.resolve p = .ok place) : p.text ≠ [] := by
  intro hnil
  have hspelled := (resolve_eq_ok.1 h).1
  simp [spellingFault, hnil] at hspelled

theorem resolve_names (h : d.resolve p = .ok place) : AllNames place :=
  follow_names (allNames_startOf d.workdir_names p) (no_slash_of_mem_segments p) (resolve_eq_ok.1 h).2

theorem resolve_root (d : Disk) : d.resolve (ofNames []) = .ok [] := by
  refine resolve_eq_ok.2 ⟨by decide, follow_arrived ?_ _⟩
  rw [segments_root, descend_silent (by decide), descend_silent (by decide)]
  simp [startOf]

theorem Grows.resolve_eq (g : Grows d d') (h : d.resolve p = .ok place) : d'.resolve p = .ok place := by
  obtain ⟨hs, hf⟩ := resolve_eq_ok.1 h
  refine resolve_eq_ok.2 ⟨hs, ?_⟩
  rw [g.workdir]
  exact g.follow_eq (allNames_startOf d.workdir_names p) (no_slash_of_mem_segments p) hf

theorem canonicalize_eq_ok :
    d.canonicalize p = .ok c ↔ ∃ place, d.resolve p = .ok place ∧ c = ofNames place := by
  cases h : d.resolve p <;> simp [canonicalize, h, Except.map, eq_comm]

theorem Grows.canonicalize_eq (g : Grows d d') (h : d.canonicalize p = .ok c) :
    d'.canonicalize p = .ok c := by
  obtain ⟨place, hr, hc⟩ := canonicalize_eq_ok.1 h
  exact canonicalize_eq_ok.2 ⟨place, g.resolve_eq hr, hc⟩

theorem canonical_same {c' : Path} (h : d.canonicalize p = .ok c) (h' : d'.canonicalize q = .ok c') :
    c.same c' ↔ c = c' := by
  obtain ⟨place, hr, rfl⟩ := canonicalize_eq_ok.1 h
  obtain ⟨place', hr', rfl⟩ := canonicalize_eq_ok.1 h'
  exact same_ofNames (resolve_names hr) (resolve_names hr')

theorem follow_base (h : d.resolve p = .ok place) :
    d.follow linkLimit (startOf d.workdir p) p.base = .ok place := by
  have hf := (resolve_eq_ok.1 h).2
  rcases segments_cases p with hp | ⟨before, last, -, hp, hb⟩
  · rw [hp] at hf
    exact follow_of_append_silents (allNames_startOf d.workdir_names p) no_slash_of_mem_base
      (by simp [silent]) hf
  · rwa [hb, ← hp]

/-- A path leads to a place. The empty path is refused by every look-up, but what is joined to it
starts at the working directory. -/
def Leads (d : Disk) (p : Path) (place : Place) : Prop :=
  d.resolve p = .ok place ∨ p.text = [] ∧ place = d.workdir

theorem Leads.follow (h : d.Leads p place) :
    d.follow linkLimit (startOf d.workdir p) p.base = .ok place := by
  rcases h with hr | ⟨hp, rfl⟩
  · exact follow_base hr
  · obtain rfl : p = ⟨[]⟩ := congrArg Path.mk hp
    exact follow_arrived descend_nil _

theorem Leads.allNames (h : d.Leads p place) : AllNames place := by
  rcases h with hr | ⟨-, rfl⟩
  · exact resolve_names hr
  · exact d.workdir_names

theorem Grows.leads (g : Grows d d') (h : d.Leads p place) : d'.Leads p place := by
  rcases h with hr | ⟨hp, rfl⟩
  · exact .inl (g.resolve_eq hr)
  · exact .inr ⟨hp, g.workdir.symm⟩

def isLink : Entry → Bool
  | .link _ => true
  | _ => false

def LinkFreeAt (d : Disk) (place : Place) : Prop :=
  ∀ names target, d.get? (place ++ names) ≠ some (.link target)

def LinkFree (d : Disk) : Prop := ∀ place target, d.get? place ≠ some (.link target)

theorem linkFree_of_entries (h : ∀ e ∈ d.entries, isLink e.2 = false) : LinkFree d := by
  intro place target he
  by_cases hp : place = []
  · simp [hp] at he
  · rw [get?_of_ne_nil hp] at he
    obtain ⟨before, after, hd, -⟩ := List.lookup_eq_some_iff.1 he
    have := h (place, .link target) (by simp [hd])
    simp [isLink] at this

theorem LinkFree.below (h : LinkFree d) (place : Place) : LinkFreeAt d place := fun _ => h _

theorem Grows.linkFree (g : Grows d d') (h : LinkFree d) : LinkFree d' :=
  fun place target he => h place target (g.link.1 he)

theorem Grows.linkFreeAt (g : Grows d d') (h : LinkFreeAt d place) : LinkFreeAt d' place :=
  fun names target he => h names target (g.link.1 he)

theorem LinkFreeAt.descend (h : LinkFreeAt d here) (hn : AllNames names) (directory : Place)
    (target : Path) (rest : List Text) : d.descend here names ≠ .atLink directory target rest := by
  induction names generalizing here with
  | nil => simp
  | cons name others ih =>
    rw [allNames_cons] at hn
    rcases Nat.lt_or_ge nameLimit name.length with hl | hl
    · simp [descend_tooLong hn.1 hl]
    · rw [descend_name hn.1 hl]
      split
      · simp
      · exact ih (fun more t => by simpa using h (name :: more) t) hn.2
      · split <;> simp
      · next t he => exact absurd he (h [name] t)

theorem LinkFree.descend (h : LinkFree d) (hs : ∀ s ∈ segments, '/' ∉ s) (directory : Place)
    (target : Path) (rest : List Text) :
    d.descend here segments ≠ .atLink directory target rest := by
  induction segments generalizing here with
  | nil => simp
  | cons segment others ih =>
    rw [List.forall_mem_cons] at hs
    rcases segment_cases hs.1 with hsil | rfl | ⟨hn, hl | hl⟩
    · rw [descend_silent hsil]
      exact ih hs.2
    · rw [descend_dotDot]
      exact ih hs.2
    · simp [descend_tooLong hn hl]
    · rw [descend_name hn hl]
      split
      · simp
      · exact ih hs.2
      · split <;> simp
      · next t he => exact absurd he (h _ t)

theorem LinkFree.follow_iff (h : LinkFree d) (hs : ∀ s ∈ segments, '/' ∉ s) {budget : Nat} :
    d.follow budget here segments = .ok place ↔ d.descend here segments = .arrived place := by
  cases he : d.descend here segments with
  | arrived other => simp [follow_arrived he]
  | failed fault => simp [follow_failed he]
  | atLink directory target rest => exact absurd he (h.descend hs _ _ _)

theorem LinkFree.resolve_iff (h : LinkFree d) : d.resolve p = .ok place ↔
    spellingFault p = none ∧ d.descend (startOf d.workdir p) p.segments = .arrived place := by
  rw [resolve_eq_ok, h.follow_iff (no_slash_of_mem_segments p)]

/-- A path that leads to a directory without links below it. -/
structure Ground (d : Disk) (root : Path) (place : Place) : Prop where
  leads : d.Leads root place
  directory : d.get? place = some .directory
  linkFree : d.LinkFreeAt place

theorem LinkFree.ground (h : LinkFree d) : d.Ground (ofNames []) [] :=
  ⟨.inl (resolve_root d), get?_root d, h.below []⟩

theorem Grows.ground {root : Path} (g : Grows d d') (h : d.Ground root place) :
    d'.Ground root place :=
  ⟨g.leads h.leads, g.directory h.directory, g.linkFreeAt h.linkFree⟩

theorem resolve_below {root : Path} {other : Place} (ground : d.Ground root place)
    (hn : AllNames names) (hne : names ≠ []) : d.resolve (ofSegments (root.base ++ names)) = .ok other ↔
      spellingFault (ofSegments (root.base ++ names)) = none ∧
        d.descend place names = .arrived other := by
  have hstart : startOf d.workdir (ofSegments (root.base ++ names)) = startOf d.workdir root := by
    simp [startOf, isAbsolute_below hn hne]
  rw [resolve_eq_ok, hstart, segments_below hn hne,
    follow_append (allNames_startOf d.workdir_names root) no_slash_of_mem_base
      ground.leads.follow ground.directory (ground.linkFree.descend hn)]
  cases he : d.descend place names with
  | arrived => simp [follow_arrived he]
  | failed => simp [follow_failed he]
  | atLink directory target rest => exact absurd he (ground.linkFree.descend hn _ _ _)

theorem LinkFree.resolve_ofNames (h : LinkFree d) (hn : AllNames names) :
    d.resolve (ofNames names) = .ok place ↔
      spellingFault (ofNames names) = none ∧ d.descend [] names = .arrived place := by
  rw [h.resolve_iff]
  have hstart : startOf d.workdir (ofNames names) = [] := by simp [startOf]
  rw [hstart]
  by_cases hne : names = []
  · rw [hne, segments_root, descend_silent (by decide), descend_silent (by decide)]
  · rw [segments_ofNames hn hne, descend_silent (by decide)]

theorem LinkFree.place_of_resolve (h : LinkFree d) (hn : AllNames names)
    (hr : d.resolve (ofNames names) = .ok place) : place = names := by
  simpa using descend_names hn ((h.resolve_ofNames hn).1 hr).2

theorem descend_split {more : List Text} (hs : ∀ s ∈ segments, '/' ∉ s)
    (h : d.descend here (segments ++ more) = .arrived place) :
    ∃ middle, d.descend here segments = .arrived middle ∧ d.descend middle more = .arrived place := by
  cases he : d.descend here segments with
  | failed fault => simp [descend_append_failed hs he] at h
  | atLink directory target rest => simp [descend_append_atLink hs he] at h
  | arrived middle =>
    refine ⟨middle, rfl, ?_⟩
    rcases descend_append_arrived hs he more with hm | ⟨-, hm⟩
    · rw [← hm, h]
    · simp [hm] at h

theorem follow_front {budget : Nat} {front more : List Text} (hh : AllNames here)
    (hs : ∀ s ∈ front ++ more, '/' ∉ s) (h : d.follow budget here (front ++ more) = .ok place) :
    ∃ middle, d.follow budget here front = .ok middle := by
  refine follow_induction (P := fun budget here segments => ∀ front, segments = front ++ more →
    ∃ middle, d.follow budget here front = .ok middle) ?_ ?_ hh hs h front rfl
  · rintro budget here _ - hs he - front rfl
    obtain ⟨middle, hmiddle, -⟩ := descend_split (fun s h => hs s (List.mem_append_left _ h)) he
    exact ⟨middle, follow_arrived hmiddle _⟩
  · rintro budget here _ directory target rest - hs he ih front rfl
    have hfront : ∀ s ∈ front, '/' ∉ s := fun s h => hs s (List.mem_append_left _ h)
    cases hd : d.descend here front with
    | arrived middle => exact ⟨middle, follow_arrived hd _⟩
    | failed fault => simp [descend_append_failed hfront hd] at he
    | atLink directory' target' rest' =>
      rw [descend_append_atLink hfront hd] at he
      obtain ⟨rfl, rfl, rfl⟩ := Descent.atLink.inj he
      rw [follow_atLink_succ hd]
      exact ih _ (List.append_assoc _ _ _).symm

theorem isFile_iff : d.isFile p ↔
    ∃ place body, d.resolve p = .ok place ∧ d.get? place = some (.file body) := by
  unfold isFile stat
  cases hr : d.resolve p with
  | error fault => simp
  | ok place =>
    cases he : d.get? place with
    | none => simp [he]
    | some entry => cases entry <;> simp [he]

theorem isDirectory_iff : d.isDirectory p ↔
    ∃ place, d.resolve p = .ok place ∧ d.get? place = some .directory := by
  unfold isDirectory stat
  cases hr : d.resolve p with
  | error fault => simp
  | ok place =>
    cases he : d.get? place with
    | none => simp [he]
    | some entry => cases entry <;> simp [he]

theorem pathExists_iff {p : Path} : d.pathExists p ↔
    ∃ place entry, d.resolve p = .ok place ∧ d.get? place = some entry := by
  cases hr : d.resolve p with
  | error fault => simp [pathExists, stat, hr]
  | ok place => simp [pathExists, stat, hr, Option.isSome_iff_exists]

theorem Grows.pathExists {p : Path} (g : Grows d d') (h : d.pathExists p) : d'.pathExists p := by
  obtain ⟨place, entry, hr, he⟩ := pathExists_iff.1 h
  obtain ⟨entry', he'⟩ : ∃ entry', d'.get? place = some entry' := by
    cases entry with
    | directory => exact ⟨_, g.directory he⟩
    | file body =>
      obtain ⟨body', hbody⟩ := g.file he
      exact ⟨_, hbody⟩
    | link target => exact ⟨_, g.link.2 he⟩
  exact pathExists_iff.2 ⟨place, entry', g.resolve_eq hr, he'⟩

/-- A path with a file name ends in that name, up to silent segments. -/
theorem segments_of_fileName {name : Text} (h : p.fileName = some name) :
    isName name ∧ ∃ before silents, p.segments = before ++ name :: silents ∧ ∀ s ∈ silents, silent s := by
  have hsplit : p.spokenSegments.reverse ++ (p.segments.reverse.takeWhile silent).reverse =
      p.segments := by
    rw [spokenSegments, ← List.reverse_append, List.takeWhile_append_dropWhile, List.reverse_reverse]
  cases hs : p.spokenSegments with
  | nil => simp [fileName, hs] at h
  | cons last before =>
    simp only [fileName, hs] at h
    split at h
    · simp at h
    · next hdots =>
      obtain rfl : last = name := by simpa using h
      rw [hs, List.reverse_cons, List.append_assoc] at hsplit
      refine ⟨?_, before.reverse, _, hsplit.symm, ?_⟩
      · have hspoken : silent last = false := by
          have hd : p.segments.reverse.dropWhile silent = last :: before := hs
          simpa [hd] using List.head_dropWhile_not silent (l := p.segments.reverse) (by simp [hd])
        have hslash := no_slash_of_mem_segments p last (by rw [← hsplit]; simp)
        simp_all [isName]
      · intro s hm
        have hall := List.all_takeWhile (p := silent) (l := p.segments.reverse)
        exact List.all_eq_true.1 hall s (List.mem_reverse.1 hm)

theorem LinkFree.resolve_fileName {name : Text} (hl : LinkFree d) (hr : d.resolve p = .ok place)
    (hn : p.fileName = some name) : ∃ before, place = before ++ [name] := by
  obtain ⟨hname, before, silents, hs, hsilent⟩ := segments_of_fileName hn
  have hslash := no_slash_of_mem_segments p
  have hw := (hl.resolve_iff.1 hr).2
  rw [hs] at hw hslash
  obtain ⟨middle, -, hlast⟩ :=
    descend_split (fun s h => hslash s (List.mem_append_left _ h)) hw
  refine ⟨middle, ?_⟩
  rcases Nat.lt_or_ge nameLimit name.length with hlong | hlong
  · simp [descend_tooLong hname hlong] at hlast
  · rw [descend_name hname hlong] at hlast
    split at hlast
    · simp at hlast
    · simpa [descend_silents hsilent, eq_comm] using hlast
    · split at hlast <;> simp_all
    · simp at hlast

end Resolve

end TemplateCheck.Disk
