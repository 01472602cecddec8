import TemplateCheck.Proofs.Landing

/-!
A disk is kept as a list of entries, and the order of the list is nobody's business: disks with the
same entry at every place are alike, and no look-up tells them apart. On a disk that is a tree every
entry has a proper name and stands in a directory. Making directories and writing files keeps it one.
-/
namespace TemplateCheck.Disk

open Path

variable {d d' : Disk} {here place : Place} {names : List Text} {name : Text} {p : Path}

structure Alike (d d' : Disk) : Prop where
  workdir : d'.workdir = d.workdir
  entry : ∀ place, d'.get? place = d.get? place

theorem Alike.refl (d : Disk) : Alike d d := ⟨rfl, fun _ => rfl⟩

theorem Alike.symm (h : Alike d d') : Alike d' d := ⟨h.workdir.symm, fun place => (h.entry place).symm⟩

theorem Alike.trans {d₁ d₂ d₃ : Disk} (h : Alike d₁ d₂) (k : Alike d₂ d₃) : Alike d₁ d₃ :=
  ⟨k.workdir.trans h.workdir, fun place => (k.entry place).trans (h.entry place)⟩

theorem Alike.grows (h : Alike d d') : Grows d d' where
  workdir := h.workdir
  directory := fun hd => (h.entry _).trans hd
  file := fun hf => ⟨_, (h.entry _).trans hf⟩
  link := by
    intro place target
    rw [h.entry]

theorem Alike.descend (h : Alike d d') (here : Place) (segments : List Text) :
    d'.descend here segments = d.descend here segments := by
  induction segments generalizing here with
  | nil => simp
  | cons segment rest ih => simp only [Disk.descend, h.entry, ih]

theorem Alike.follow (h : Alike d d') (budget : Nat) (here : Place) (segments : List Text) :
    d'.follow budget here segments = d.follow budget here segments := by
  have hdescend := h.descend here segments
  induction budget generalizing here segments with
  | zero =>
    cases he : d.descend here segments with
    | arrived place => rw [follow_arrived he, follow_arrived (hdescend.trans he)]
    | failed fault => rw [follow_failed he, follow_failed (hdescend.trans he)]
    | atLink _ _ _ => rw [follow_atLink_zero he, follow_atLink_zero (hdescend.trans he)]
  | succ budget ih =>
    cases he : d.descend here segments with
    | arrived place => rw [follow_arrived he, follow_arrived (hdescend.trans he)]
    | failed fault => rw [follow_failed he, follow_failed (hdescend.trans he)]
    | atLink directory target rest =>
      rw [follow_atLink_succ he, follow_atLink_succ (hdescend.trans he)]
      exact ih _ _ (h.descend _ _)

theorem Alike.resolve (h : Alike d d') (p : Path) : d'.resolve p = d.resolve p := by
  unfold Disk.resolve
  rw [h.workdir]
  cases spellingFault p with
  | some fault => rfl
  | none => exact h.follow _ _ _

theorem Alike.canonicalize (h : Alike d d') (p : Path) : d'.canonicalize p = d.canonicalize p := by
  rw [Disk.canonicalize, h.resolve, ← Disk.canonicalize]

theorem Alike.stat (h : Alike d d') (p : Path) : d'.stat p = d.stat p := by
  unfold Disk.stat
  rw [h.resolve]
  cases d.resolve p with
  | error fault => rfl
  | ok place => exact h.entry place

theorem Alike.isFile (h : Alike d d') (p : Path) : d'.isFile p = d.isFile p := by
  unfold Disk.isFile
  rw [h.stat]

theorem Alike.readBytes (h : Alike d d') (p : Path) : d'.readBytes p = d.readBytes p := by
  unfold Disk.readBytes
  rw [h.resolve]
  cases d.resolve p with
  | error fault => rfl
  | ok place => simp only [h.entry]

theorem Alike.readText (h : Alike d d') (p : Path) : d'.readText p = d.readText p := by
  unfold Disk.readText
  rw [h.readBytes]

structure Tree (d : Disk) : Prop where
  named : ∀ {place entry}, d.get? place = some entry → AllNames place
  short : ∀ {place name entry}, d.get? (place ++ [name]) = some entry →
    name.length ≤ nameLimit
  parent : ∀ {place name entry}, d.get? (place ++ [name]) = some entry →
    d.get? place = some .directory
  workdir : d.get? d.workdir = some .directory

/-- It is enough to look at the entries that are listed. -/
theorem tree_of_entries (hw : d.holdsDirectory d.workdir)
    (h : ∀ e ∈ d.entries, (∀ name ∈ e.1, isName name ∧ name.length ≤ nameLimit) ∧
      d.holdsDirectory e.1.dropLast) : Tree d := by
  have hlisted : ∀ {place entry}, place ≠ [] → d.get? place = some entry →
      (∀ name ∈ place, isName name ∧ name.length ≤ nameLimit) ∧
        d.holdsDirectory place.dropLast := by
    intro place entry hne he
    rw [get?_of_ne_nil hne] at he
    obtain ⟨before, after, hd, -⟩ := List.lookup_eq_some_iff.1 he
    exact h (place, entry) (by simp [hd])
  refine ⟨?_, ?_, ?_, holdsDirectory_iff.1 hw⟩
  · intro place entry he
    by_cases hne : place = []
    · simp [hne]
    · exact fun name hm => ((hlisted hne he).1 name hm).1
  · intro place name entry he
    exact ((hlisted (by simp) he).1 name (by simp)).2
  · intro place name entry he
    have hparent := (hlisted (by simp) he).2
    rw [List.dropLast_concat] at hparent
    exact holdsDirectory_iff.1 hparent

theorem allNames_s : AllNames ["s"] := by decide

theorem Alike.tree (h : Alike d d') (ht : Tree d) : Tree d' where
  named := fun he => ht.named ((h.entry _).symm.trans he)
  short := fun he => ht.short ((h.entry _).symm.trans he)
  parent := fun he => (h.entry _).trans (ht.parent ((h.entry _).symm.trans he))
  workdir := by
    rw [h.entry, h.workdir]
    exact ht.workdir

theorem Tree.joinAll_entry (ht : Tree d) (h : d.get? (here ++ names) ≠ none) :
    (ofNames here).joinAll names = ofNames (here ++ names) := by
  obtain ⟨entry, he⟩ := Option.ne_none_iff_exists'.1 h
  obtain ⟨hhere, hnames⟩ := allNames_append.1 (ht.named he)
  exact joinAll_ofNames hhere hnames

theorem Tree.paved (ht : Tree d) {entry : Entry}
    (h : d.get? (here ++ names ++ [name]) = some entry) : d.Paved here names := by
  induction names using List.reverseRecOn generalizing name entry with
  | nil => trivial
  | append_singleton before last ih =>
    have hlast := ht.parent h
    rw [← List.append_assoc] at hlast
    exact paved_append.2 ⟨ih hlast, ⟨ht.short hlast, hlast⟩, trivial⟩

theorem Tree.paved_of_directory (ht : Tree d) (h : d.get? (here ++ names) = some .directory) :
    d.Paved here names := by
  by_cases hne : names = []
  · rw [hne]
    trivial
  · obtain ⟨before, last, rfl⟩ := exists_snoc hne
    rw [← List.append_assoc] at h
    exact paved_append.2 ⟨ht.paved h, ⟨ht.short h, h⟩, trivial⟩

theorem Tree.directory_of_below (ht : Tree d) {entry : Entry} (hne : names ≠ [])
    (h : d.get? (here ++ names) = some entry) : d.get? here = some .directory := by
  induction names using List.reverseRecOn generalizing entry with
  | nil => exact absurd rfl hne
  | append_singleton before last ih =>
    rw [← List.append_assoc] at h
    have hparent := ht.parent h
    by_cases hb : before = []
    · simpa [hb] using hparent
    · exact ih hb hparent

theorem Tree.descend (ht : Tree d) {entry : Entry} (h : d.get? (here ++ names) = some entry)
    (hne : names ≠ []) (hl : ∀ target, entry ≠ .link target) :
    d.descend here names = .arrived (here ++ names) := by
  obtain ⟨before, last, rfl⟩ := exists_snoc hne
  rw [← List.append_assoc] at h
  have hnames := ht.named h
  rw [List.append_assoc, allNames_append] at hnames
  have hpaved := ht.paved h
  obtain ⟨hbefore, hlast⟩ := allNames_append.1 hnames.2
  rw [descend_append hbefore.no_slash (hpaved.descend hbefore) (ht.parent h),
    descend_name (allNames_cons.1 hlast).1 (ht.short h), h]
  cases entry with
  | directory => simp
  | file body => simp
  | link target => exact absurd rfl (hl target)

/-- Nothing is found behind a path that leads to a file. -/
theorem Tree.resolve_past_file (ht : Tree d) {root : Path} {body : ByteArray} {found : Place}
    (hr : d.resolve root = .ok place) (hf : d.get? place = some (.file body))
    (hn : AllNames names) (hne : names ≠ []) :
    d.resolve (ofSegments (root.base ++ names)) ≠ .ok found := by
  -- from the file itself there is no step to any name
  have hstuck : ∃ fault, d.descend place names = .failed fault := by
    obtain ⟨first, rest, rfl⟩ := List.exists_cons_of_ne_nil hne
    rw [allNames_cons] at hn
    rcases Nat.lt_or_ge nameLimit first.length with hl | hl
    · exact ⟨_, descend_tooLong hn.1 hl rest⟩
    · have hnone : d.get? (place ++ [first]) = none := by
        by_contra hsome
        obtain ⟨entry, he⟩ := Option.ne_none_iff_exists'.1 hsome
        rw [ht.parent he] at hf
        simp at hf
      exact ⟨.notFound, by rw [descend_name hn.1 hl, hnone]⟩
  obtain ⟨fault, hfault⟩ := hstuck
  intro h
  have hfollow := (resolve_eq_ok.1 h).2
  rw [segments_below hn hne, startOf, isAbsolute_below hn hne, ← startOf] at hfollow
  refine follow_induction (P := fun _ here segments => ∀ budget,
    d.follow budget here (segments ++ names) ≠ .ok found) ?_ ?_
    (allNames_startOf d.workdir_names root) no_slash_of_mem_base (follow_base hr) _ hfollow
  · intro _ here segments _ hs harrived _ budget
    rcases descend_append_arrived hs harrived names with he | ⟨-, he⟩
    · simp [follow_failed (he.trans hfault)]
    · simp [follow_failed he]
  · intro _ here segments directory target rest _ hs hlink ih budget
    have hlink' := descend_append_atLink hs hlink names
    cases budget with
    | zero => simp [follow_atLink_zero hlink']
    | succ budget =>
      rw [follow_atLink_succ hlink', ← List.append_assoc]
      exact ih budget

/-- A walk from an entry stays on entries. -/
theorem Tree.descend_stands (ht : Tree d) {segments : List Text} {entry : Entry}
    (hs : ∀ s ∈ segments, '/' ∉ s) (he : d.get? here = some entry) :
    (∀ found, d.descend here segments = .arrived found → ∃ e, d.get? found = some e) ∧
      ∀ directory target rest, d.descend here segments = .atLink directory target rest →
        ∃ e, d.get? directory = some e := by
  induction segments generalizing here entry with
  | nil => simp [he]
  | cons segment others ih =>
    rw [List.forall_mem_cons] at hs
    rcases segment_cases hs.1 with hsilent | rfl | ⟨hn, hl | hl⟩
    · rw [descend_silent hsilent]
      exact ih hs.2 he
    · rw [descend_dotDot]
      by_cases hnil : here = []
      · subst hnil
        exact ih hs.2 he
      · obtain ⟨before, last, rfl⟩ := exists_snoc hnil
        rw [List.dropLast_concat]
        exact ih hs.2 (ht.parent he)
    · simp [descend_tooLong hn hl]
    · rw [descend_name hn hl]
      cases hentry : d.get? (here ++ [segment]) with
      | none => simp
      | some found =>
        cases found with
        | directory => exact ih hs.2 hentry
        | file body =>
          by_cases ho : others = []
          · simp [ho, hentry]
          · simp [ho]
        | link target => simp [he]

theorem Tree.follow_stands (ht : Tree d) {budget : Nat} {segments : List Text} {entry : Entry}
    (hs : ∀ s ∈ segments, '/' ∉ s) (he : d.get? here = some entry)
    (h : d.follow budget here segments = .ok place) : ∃ e, d.get? place = some e := by
  refine follow_induction (P := fun _ here _ => ∀ entry, d.get? here = some entry →
    ∃ e, d.get? place = some e) ?_ ?_ (ht.named he) hs h entry he
  · intro _ here segments _ hs harrived _ entry he
    exact (ht.descend_stands hs he).1 place harrived
  · intro _ here segments directory target rest _ hs hlink ih entry he
    obtain ⟨e, hdirectory⟩ := (ht.descend_stands hs he).2 directory target rest hlink
    by_cases ha : target.isAbsolute
    · exact ih .directory (by simp [startOf, ha])
    · exact ih e (by simpa [startOf, ha] using hdirectory)

/-- Where a path leads somewhere, its parent does so too. -/
theorem Tree.roomy (ht : Tree d) {root : Path} (hr : d.resolve root = .ok place) : d.Roomy root := by
  obtain ⟨hspelled, hfollow⟩ := resolve_eq_ok.1 hr
  intro up hup
  rcases parent_cases hup with hempty | rfl | rfl | ⟨front, last, more, hne, hsegments, rfl⟩
  · exact .inl hempty
  · exact .inr (pathExists_iff.2 ⟨[], _, resolve_root d, get?_root d⟩)
  · refine .inr (pathExists_iff.2 ⟨d.workdir, _, ?_, ht.workdir⟩)
    exact resolve_eq_ok.2 ⟨by decide, follow_arrived (descend_silents (by decide)) _⟩
  · obtain ⟨entry, hstart⟩ : ∃ e, d.get? (startOf d.workdir root) = some e := by
      unfold startOf
      split
      · exact ⟨_, get?_root d⟩
      · exact ⟨_, ht.workdir⟩
    have hslash := no_slash_of_mem_segments root
    rw [hsegments, List.append_cons] at hslash hfollow
    obtain ⟨middle, hmiddle⟩ := follow_front (allNames_startOf d.workdir_names root) hslash hfollow
    obtain ⟨e, he⟩ :=
      ht.follow_stands (fun s h => hslash s (List.mem_append_left _ h)) hstart hmiddle
    exact .inr (pathExists_iff.2
      ⟨middle, e, resolve_of_front hspelled hsegments hne hmiddle, he⟩)

/-- An entry that is put in a directory, where none was or a file. -/
theorem Tree.put (ht : Tree d) {entry : Entry} (hd : d.get? place = some .directory)
    (hname : isName name) (hshort : name.length ≤ nameLimit)
    (hfree : d.get? (place ++ [name]) = none ∨ ∃ old, d.get? (place ++ [name]) = some (.file old)) :
    Tree (d.put (place ++ [name]) entry) := by
  -- a directory is never what the new entry takes the place of
  have hkept : ∀ {other}, d.get? other = some .directory →
      (d.put (place ++ [name]) entry).get? other = some .directory := by
    intro other ho
    have hne : other ≠ place ++ [name] := by
      rintro rfl
      rcases hfree with h | ⟨old, h⟩ <;> simp [ho] at h
    rw [get?_put_of_ne hne, ho]
  refine ⟨?_, ?_, ?_, hkept ht.workdir⟩
  · intro other e he
    by_cases ho : other = place ++ [name]
    · subst ho
      exact allNames_append.2 ⟨ht.named hd, allNames_cons.2 ⟨hname, allNames_nil⟩⟩
    · rw [get?_put_of_ne ho] at he
      exact ht.named he
  · intro other last e he
    by_cases ho : other ++ [last] = place ++ [name]
    · obtain ⟨-, rfl⟩ := List.append_singleton_inj.1 ho
      exact hshort
    · rw [get?_put_of_ne ho] at he
      exact ht.short he
  · intro other last e he
    by_cases ho : other ++ [last] = place ++ [name]
    · obtain ⟨rfl, -⟩ := List.append_singleton_inj.1 ho
      exact hkept hd
    · rw [get?_put_of_ne ho] at he
      exact hkept (ht.parent he)

/-- What is known when a path asks for a name in a directory, with or without slashes behind it. -/
theorem approach_stands {budget : Nat} {start directory : Place} {slash : Bool}
    (h : d.approach budget start p = .ok (.name directory name slash)) :
    ∃ before silents, p.segments = before ++ name :: silents ∧ (∀ s ∈ silents, silent s) ∧
      isName name ∧ name.length ≤ nameLimit ∧
      d.follow budget (startOf start p) before = .ok directory ∧
      d.get? directory = some .directory := by
  unfold approach at h
  have hsplit := List.takeWhile_append_dropWhile (p := fun s : Text => decide (s = []))
    (l := p.segments.reverse)
  have hempty := List.all_takeWhile (p := fun s : Text => decide (s = [])) (l := p.segments.reverse)
  split at h
  · simp at h
  · next last before hdrop =>
    rw [hdrop] at hsplit
    have hsegments : p.segments = before.reverse ++
        last :: (p.segments.reverse.takeWhile fun s => decide (s = [])).reverse := by
      have hreverse := congrArg List.reverse hsplit
      rw [List.reverse_reverse, List.reverse_append, List.reverse_cons] at hreverse
      simpa using hreverse.symm
    have hspoken : last ≠ [] := by
      have hhead := List.head_dropWhile_not (fun s : Text => decide (s = []))
        (l := p.segments.reverse) (by simp [hdrop])
      simpa [hdrop] using hhead
    split at h
    · simp at h
    · next found hfound =>
      split_ifs at h with hdir hdots hlong
      · exact absurd (Except.ok.inj h) (by simp)
      · obtain ⟨rfl, rfl, -⟩ := Goal.name.inj (Except.ok.inj h)
        rw [not_or] at hdots
        have hslash := no_slash_of_mem_segments p last (by rw [hsegments]; simp)
        refine ⟨before.reverse, _, hsegments, ?_, isName_iff.2 ⟨hspoken, hdots.1, hdots.2, hslash⟩,
          Nat.not_lt.1 hlong, hfound, holdsDirectory_iff.1 (by simpa using hdir)⟩
        intro s hs
        have hnil := List.all_eq_true.1 hempty s (List.mem_reverse.1 hs)
        obtain rfl : s = [] := by simpa using hnil
        rfl

/-- A directory that was made is found by the path that asked for it. -/
theorem makeDirectory_isDirectory (h : d.makeDirectory p = .ok d') : d'.isDirectory p := by
  have g := (makeDirectory_adds h).grows
  unfold makeDirectory at h
  split at h
  · simp at h
  · next hspell =>
    split at h
    · simp at h
    · simp at h
    · next directory name slash happroach =>
      split at h
      · simp at h
      · obtain ⟨before, silents, hs, hsilent, hname, hshort, hfollow, hdir⟩ :=
          approach_stands happroach
        obtain rfl := Except.ok.inj h
        have hput := get?_put_self (d := d) (show directory ++ [name] ≠ [] by simp) .directory
        have hslash : ∀ s ∈ before, '/' ∉ s := fun s hm =>
          no_slash_of_mem_segments p s (by simp [hs, hm])
        have hh := allNames_startOf d.workdir_names p
        have hlast : (d.put (directory ++ [name]) .directory).descend directory (name :: silents) =
            .arrived (directory ++ [name]) := by
          rw [descend_name hname hshort, hput]
          exact descend_silents hsilent
        refine isDirectory_iff.2 ⟨directory ++ [name], resolve_eq_ok.2 ⟨hspell, ?_⟩, hput⟩
        rw [hs, g.workdir, follow_append hh hslash (g.follow_eq hh hslash hfollow)
          (g.directory hdir) (by simp [hlast])]
        exact follow_arrived hlast 0

theorem makeLineage_isDirectory {ancestors : List Path} (hp : p.text ≠ [])
    (h : d.makeLineage (p :: ancestors) = (.ok (), d')) : d'.isDirectory p := by
  rw [makeLineage, if_neg (by simpa using hp)] at h
  -- either the last directory was made just now, or it was found
  have hfound : ∀ {e : Disk} {fault : Fault},
      ((if e.isDirectory p then .ok () else .error fault : Except Fault Unit), e) = (.ok (), d') →
      d'.isDirectory p := by
    intro e fault he
    obtain ⟨hok, rfl⟩ := Prod.mk.inj he
    by_cases hdir : e.isDirectory p
    · exact hdir
    · simp [hdir] at hok
  split at h
  · next made hmade =>
    obtain ⟨-, rfl⟩ := Prod.mk.inj h
    exact makeDirectory_isDirectory hmade
  · split at h
    · simp at h
    · split at h
      · next made hmade =>
        obtain ⟨-, rfl⟩ := Prod.mk.inj h
        exact makeDirectory_isDirectory hmade
      · exact hfound h
  · exact hfound h

theorem makeDirectories_isDirectory (hp : p.text ≠ [])
    (h : d.makeDirectories p = (.ok (), d')) : d'.isDirectory p := by
  have hlineage : ∃ ancestors, p.lineage = p :: ancestors := by
    unfold lineage
    rw [lineage.go]
    exact ⟨_, rfl⟩
  obtain ⟨ancestors, hl⟩ := hlineage
  rw [makeDirectories, hl] at h
  exact makeLineage_isDirectory hp h

theorem Tree.makeDirectory (ht : Tree d) (h : d.makeDirectory p = .ok d') : Tree d' := by
  unfold Disk.makeDirectory at h
  split at h
  · simp at h
  · split at h
    · simp at h
    · simp at h
    · next directory name slash happroach =>
      split at h
      · simp at h
      · next hnone =>
        obtain ⟨-, -, -, -, hname, hshort, -, hdir⟩ := approach_stands happroach
        obtain rfl := Except.ok.inj h
        exact ht.put hdir hname hshort (.inl hnone)

theorem Tree.makeLineage (ht : Tree d) (paths : List Path) : Tree (d.makeLineage paths).2 := by
  induction paths with
  | nil => exact ht
  | cons p ancestors ih =>
    rw [Disk.makeLineage]
    split
    · exact ht
    · split
      · next made hmade => exact ht.makeDirectory hmade
      · split
        · next fault d' hup =>
          rw [hup] at ih
          exact ih
        · next d' hup =>
          rw [hup] at ih
          split
          · next made hmade => exact ih.makeDirectory hmade
          · exact ih
      · exact ht

theorem Tree.writeFrom (ht : Tree d) {body : ByteArray} {budget : Nat} {start : Place}
    (h : d.writeFrom body budget start p = .ok d') : Tree d' := by
  fun_induction d.writeFrom body budget start p with
  | case1 | case2 | case3 | case6 | case7 => simp at h
  | case4 budget start p directory name happroach hnone =>
    obtain ⟨-, -, -, -, hname, hshort, -, hdir⟩ := approach_stands happroach
    obtain rfl := Except.ok.inj h
    exact ht.put hdir hname hshort (.inl hnone)
  | case5 budget start p directory name happroach old hold =>
    obtain ⟨-, -, -, -, hname, hshort, -, hdir⟩ := approach_stands happroach
    obtain rfl := Except.ok.inj h
    exact ht.put hdir hname hshort (.inr ⟨old, hold⟩)
  | case8 budget start p directory name happroach target hlink hleft ih => exact ih h

theorem Tree.write (ht : Tree d) {body : ByteArray} (h : d.write p body = .ok d') : Tree d' := by
  unfold Disk.write at h
  split at h
  · simp at h
  · exact ht.writeFrom h

end TemplateCheck.Disk
