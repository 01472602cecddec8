import TemplateCheck.Proofs.Computation

/-!
Below a directory without links, a path can be made as soon as nothing but directories stands in its
way: then the directories that are missing are made and nothing else, or the spelling of the path is
at fault.
-/
namespace TemplateCheck

open Path

namespace Disk

variable {d d' : Disk} {here place : Place} {names : List Text} {name : Text} {root : Path}

def Passable (d : Disk) : Place → List Text → Prop
  | _, [] => True
  | here, name :: rest =>
    (d.get? (here ++ [name]) = none ∨ d.get? (here ++ [name]) = some .directory) ∧
      d.Passable (here ++ [name]) rest

/-- Along the names there are directories, and no name is too long. -/
def Paved (d : Disk) : Place → List Text → Prop
  | _, [] => True
  | here, name :: rest =>
    (name.length ≤ nameLimit ∧ d.get? (here ++ [name]) = some .directory) ∧
      d.Paved (here ++ [name]) rest

theorem passable_append {others : List Text} : d.Passable here (names ++ others) ↔
    d.Passable here names ∧ d.Passable (here ++ names) others := by
  induction names generalizing here with
  | nil => simp [Passable]
  | cons name rest ih => simp [Passable, ih, and_assoc]

theorem paved_append {others : List Text} : d.Paved here (names ++ others) ↔
    d.Paved here names ∧ d.Paved (here ++ names) others := by
  induction names generalizing here with
  | nil => simp [Paved]
  | cons name rest ih => simp [Paved, ih, and_assoc]

theorem Grows.paved (h : Grows d d') (hp : d.Paved here names) : d'.Paved here names := by
  induction names generalizing here with
  | nil => trivial
  | cons name rest ih => exact ⟨⟨hp.1.1, h.directory hp.1.2⟩, ih hp.2⟩

theorem Adds.passable (h : Adds d d') (hp : d.Passable here names) : d'.Passable here names := by
  induction names generalizing here with
  | nil => trivial
  | cons name rest ih => exact ⟨hp.1.elim h.added fun hd => .inr (h.kept hd), ih hp.2⟩

theorem Paved.descend (hn : AllNames names) (h : d.Paved here names) :
    d.descend here names = .arrived (here ++ names) := by
  induction names generalizing here with
  | nil => simp
  | cons name rest ih =>
    rw [allNames_cons] at hn
    rw [descend_name hn.1 h.1.1, h.1.2]
    simpa using ih hn.2 h.2

theorem Paved.directory (hd : d.get? here = some .directory) (h : d.Paved here names) :
    d.get? (here ++ names) = some .directory := by
  induction names generalizing here with
  | nil => simpa using hd
  | cons name rest ih => simpa using ih h.1.2 h.2

theorem Passable.descend (hn : AllNames names) (h : d.Passable here names) :
    d.Paved here names ∨ d.descend here names = .failed .notFound ∨
      d.descend here names = .failed .nameTooLong := by
  induction names generalizing here with
  | nil => exact .inl trivial
  | cons name rest ih =>
    rw [allNames_cons] at hn
    rcases Nat.lt_or_ge nameLimit name.length with hl | hl
    · exact .inr (.inr (descend_tooLong hn.1 hl rest))
    · rw [descend_name hn.1 hl]
      rcases h.1 with hnone | hdir
      · exact .inr (.inl (by rw [hnone]))
      · rw [hdir]
        exact (ih hn.2 h.2).imp_left fun hp => ⟨⟨hl, hdir⟩, hp⟩

/-- Faults that lie in the spelling of a path and not in what is on the disk. -/
def OfSpelling (fault : Fault) : Prop := fault = .nameTooLong ∨ fault = .nulInPath

theorem spelling_cases {p : Path} (h : p.text ≠ []) :
    spellingFault p = none ∨ ∃ fault, spellingFault p = some fault ∧ OfSpelling fault := by
  unfold spellingFault
  split
  · exact .inr ⟨_, rfl, .inr rfl⟩
  · split
    · next he => exact absurd (by simpa using he) h
    · split
      · exact .inr ⟨_, rfl, .inl rfl⟩
      · exact .inl rfl

section Step

variable {before : List Text}

theorem isDirectory_below (ground : d.Ground root place) (hn : AllNames names) (hne : names ≠ []) :
    d.isDirectory (ofSegments (root.base ++ names)) ↔
      spellingFault (ofSegments (root.base ++ names)) = none ∧
        ∃ found, d.descend place names = .arrived found ∧ d.get? found = some .directory := by
  rw [isDirectory_iff]
  constructor
  · rintro ⟨found, hfound, hdir⟩
    obtain ⟨hspell, hdescend⟩ := (resolve_below ground hn hne).1 hfound
    exact ⟨hspell, found, hdescend, hdir⟩
  · rintro ⟨hspell, found, hdescend, hdir⟩
    exact ⟨found, (resolve_below ground hn hne).2 ⟨hspell, hdescend⟩, hdir⟩

theorem not_isDirectory_of_failed {fault : Fault} (ground : d.Ground root place)
    (hn : AllNames names) (hne : names ≠ []) (h : d.descend place names = .failed fault) :
    d.isDirectory (ofSegments (root.base ++ names)) = false := by
  rw [Bool.eq_false_iff, ne_eq, isDirectory_below ground hn hne]
  rintro ⟨-, found, hfound, -⟩
  simp [h] at hfound

/-- How the making of one directory can end on a passable way. -/
inductive MakeResult (d : Disk) (p : Path) (above : Place) (name : Text) : Prop where
  | spelled (fault : Fault) (of_spelling : OfSpelling fault)
      (eq : d.makeDirectory p = .error fault) (none : d.isDirectory p = false)
  | there (short : name.length ≤ nameLimit)
      (entry : d.get? (above ++ [name]) = some .directory)
      (eq : d.makeDirectory p = .error .alreadyExists) (directory : d.isDirectory p)
  | made (short : name.length ≤ nameLimit) (entry : d.get? (above ++ [name]) = none)
      (eq : d.makeDirectory p = .ok (d.put (above ++ [name]) .directory))

theorem approach_paved (ground : d.Ground root place) (hn : AllNames before) (hname : isName name)
    (hpaved : d.Paved place before) :
    d.approach linkLimit d.workdir (ofSegments (root.base ++ (before ++ [name]))) =
      if nameLimit < name.length then .error .nameTooLong
      else .ok (.name (place ++ before) name false) := by
  rw [approach_below ground hn hname, follow_arrived (hpaved.descend hn)]
  have hfound := holdsDirectory_iff.2 (hpaved.directory ground.directory)
  simp only [hfound, Bool.not_true, Bool.false_eq_true, if_false]

/-- Where the way to a directory is paved, the directory is there or can be made, or its spelling is
at fault. -/
theorem makeDirectory_paved (ground : d.Ground root place) (hn : AllNames before)
    (hname : isName name) (hpaved : d.Paved place before)
    (hpass : d.Passable (place ++ before) [name]) :
    MakeResult d (ofSegments (root.base ++ (before ++ [name]))) (place ++ before) name := by
  have hall : AllNames (before ++ [name]) := by simp [hn, hname]
  have happroach := approach_paved ground hn hname hpaved
  have hfound := hpaved.directory ground.directory
  have hwalk := descend_append hn.no_slash (hpaved.descend hn) hfound [name]
  have htext : (ofSegments (root.base ++ (before ++ [name]))).text ≠ [] :=
    text_below_ne_nil hall (by simp)
  rcases spelling_cases htext with hs | ⟨fault, hs, hf⟩
  · rcases Nat.lt_or_ge nameLimit name.length with hlong | hshort
    · rw [descend_tooLong hname hlong] at hwalk
      refine .spelled .nameTooLong (.inl rfl) ?_
        (not_isDirectory_of_failed ground hall (by simp) hwalk)
      simp [makeDirectory, hs, happroach, hlong]
    · rw [if_neg (Nat.not_lt.2 hshort)] at happroach
      rcases hpass.1 with hnone | hdir
      · exact .made hshort hnone (by simp only [makeDirectory, hs, happroach, hnone])
      · refine .there hshort hdir (by simp only [makeDirectory, hs, happroach, hdir]) ?_
        rw [isDirectory_below ground hall (by simp)]
        refine ⟨hs, _, ?_, hdir⟩
        rw [hwalk, descend_name hname hshort, hdir]
        simp
  · refine .spelled fault hf (by simp [makeDirectory, hs]) ?_
    rw [Bool.eq_false_iff, ne_eq, isDirectory_below ground hall (by simp), hs]
    simp

/-- Where it is only passable, a directory may be missing in front. -/
theorem makeDirectory_unpaved (ground : d.Ground root place) (hn : AllNames before)
    (hname : isName name) (hpass : d.Passable place before) (hnot : ¬d.Paved place before) :
    d.makeDirectory (ofSegments (root.base ++ (before ++ [name]))) = .error .notFound ∨
    ∃ fault, OfSpelling fault ∧
      d.makeDirectory (ofSegments (root.base ++ (before ++ [name]))) = .error fault ∧
      d.isDirectory (ofSegments (root.base ++ (before ++ [name]))) = false := by
  have hall : AllNames (before ++ [name]) := by simp [hn, hname]
  have happroach := approach_below ground hn hname
  have htext : (ofSegments (root.base ++ (before ++ [name]))).text ≠ [] :=
    text_below_ne_nil hall (by simp)
  rcases spelling_cases htext with hs | ⟨fault, hs, hf⟩
  · rcases hpass.descend hn with hpaved | hmissing | hlong
    · exact absurd hpaved hnot
    · rw [follow_failed hmissing] at happroach
      exact .inl (by simp [makeDirectory, hs, happroach])
    · rw [follow_failed hlong] at happroach
      refine .inr ⟨.nameTooLong, .inl rfl, by simp [makeDirectory, hs, happroach], ?_⟩
      exact not_isDirectory_of_failed ground hall (by simp)
        (descend_append_failed hn.no_slash hlong [name])
  · refine .inr ⟨fault, hf, by simp [makeDirectory, hs], ?_⟩
    rw [Bool.eq_false_iff, ne_eq, isDirectory_below ground hall (by simp), hs]
    simp

end Step

theorem spellingFault_of_front {p : Path} {tail : Text} (h : spellingFault root = none)
    (ht : root.text = p.text ++ tail) (hne : p.text ≠ []) : spellingFault p = none := by
  simp only [spellingFault, ht, List.mem_append, List.length_append] at h ⊢
  split at h
  · simp at h
  · next hnul =>
    split at h
    · simp at h
    · split at h
      · simp at h
      · next hlong => simp [not_or.1 hnul, hne, show ¬pathLimit < p.text.length by omega]

theorem resolve_of_front {front more : List Text} {last : Text} (hspell : spellingFault root = none)
    (hroot : root.segments = front ++ last :: more) (hlast : last ≠ [])
    (hfollow : d.follow linkLimit (startOf d.workdir root) (front ++ [last]) = .ok place) :
    d.resolve (ofSegments (front ++ [last])) = .ok place := by
  have hslash : ∀ s ∈ front ++ [last], '/' ∉ s := by
    intro s hs
    refine no_slash_of_mem_segments root s ?_
    rw [hroot, List.append_cons]
    exact List.mem_append_left more hs
  have hsegments := segments_ofSegments hslash (by simp)
  have habsolute : (ofSegments (front ++ [last])).isAbsolute = root.isAbsolute := by
    rw [Bool.eq_iff_iff, isAbsolute_iff_of_segments hsegments (by simp) (by simp [hlast]),
      isAbsolute_iff_of_segments hroot (by simp) (by simp [hlast])]
  have htext := text_ne_nil hsegments hlast
  obtain ⟨tail, htail⟩ := text_ofSegments_append (front ++ [last]) more
  rw [← List.append_cons, ← hroot, ofSegments_segments] at htail
  refine resolve_eq_ok.2 ⟨spellingFault_of_front hspell htail htext, ?_⟩
  rw [startOf, habsolute, hsegments]
  exact hfollow

/-- The parent of a name below a path leads to where the path leads. -/
theorem resolve_parent (hr : d.resolve root = .ok place) (hname : isName name) :
    ∃ up, (ofSegments (root.base ++ [name])).parent = some up ∧ d.resolve up = .ok place := by
  obtain ⟨hspell, -⟩ := resolve_eq_ok.1 hr
  obtain ⟨kept, silents, hbase, hsilent, hlast, hparent⟩ :=
    parent_of_name hname (text_ne_nil_of_resolve hr)
  have hslash : ∀ s ∈ kept, '/' ∉ s := fun s hs =>
    no_slash_of_mem_base (p := root) s (by simp [hbase, hs])
  have hfollow : d.follow linkLimit (startOf d.workdir root) kept = .ok place := by
    refine follow_of_append_silents (allNames_startOf d.workdir_names root) hslash hsilent ?_
    rw [← hbase]
    exact follow_base hr
  refine ⟨_, hparent, ?_⟩
  cases kept with
  | nil =>
    -- nothing is kept of a root like `/` or `.`, whose parent is spelled afresh
    rw [follow_arrived descend_nil, Except.ok.injEq] at hfollow
    subst hfollow
    cases ha : root.isAbsolute with
    | true =>
      simp only [startOf, ha, if_true]
      exact resolve_root d
    | false =>
      simp only [startOf, ha, Bool.false_eq_true, if_false]
      exact resolve_eq_ok.2 ⟨by decide, follow_arrived (descend_silents (by decide)) _⟩
  | cons first rest =>
    show d.resolve (ofSegments (first :: rest)) = .ok place
    obtain ⟨front, last, hfront⟩ := exists_snoc (List.cons_ne_nil first rest)
    have hspoken : last ≠ [] := by
      have := hlast last (by simp [hfront])
      rintro rfl
      simp [silent] at this
    obtain ⟨more, hmore⟩ : ∃ more, root.segments = front ++ (last :: more) := by
      rcases segments_cases root with hp | ⟨before, other, -, hp, hb⟩
      · exact ⟨silents ++ [[]], by simp [hp, hbase, hfront]⟩
      · exact ⟨silents, by rw [hp, ← hb]; simp [hbase, hfront]⟩
    rw [hfront] at hfollow ⊢
    exact resolve_of_front hspell hmore hspoken hfollow

/-- The directory that a path lies in is there, or need not be. -/
def Roomy (d : Disk) (target : Path) : Prop :=
  ∀ up, target.parent = some up → up.text = [] ∨ d.pathExists up

theorem Grows.roomy {target : Path} (g : Grows d d') (h : d.Roomy target) : d'.Roomy target :=
  fun up hup => (h up hup).imp_right g.pathExists

theorem Roomy.of_parent {p q : Path} (h : d.Roomy q) (hp : p.parent = q.parent) : d.Roomy p :=
  fun up hup => h up (hp ▸ hup)

theorem roomy_of_resolve {entry : Entry} (hr : d.resolve root = .ok place)
    (he : d.get? place = some entry) (hname : isName name) :
    d.Roomy (ofSegments (root.base ++ [name])) := by
  intro up hup
  obtain ⟨up', hup', hresolve⟩ := resolve_parent hr hname
  obtain rfl : up = up' := Option.some.inj (hup.symm.trans hup')
  exact .inr (pathExists_iff.2 ⟨place, entry, hresolve, he⟩)

theorem Ground.roomy (ground : d.Ground root place) (hname : isName name) :
    d.Roomy (ofSegments (root.base ++ [name])) := by
  rcases ground.leads with hr | ⟨htext, -⟩
  · exact roomy_of_resolve hr ground.directory hname
  · -- below the empty path a name stands alone
    obtain rfl : root = ⟨[]⟩ := congrArg Path.mk htext
    intro up hup
    have hall : AllNames [name] := by simpa using hname
    have hsegments := segments_below hall (by simp) ⟨[]⟩
    have hspoken : (ofSegments ((⟨[]⟩ : Path).base ++ [name])).spokenSegments = [name] := by
      rw [spokenSegments, hsegments]
      simp [base, segments, not_silent_of_isName hname]
    have habsolute := isAbsolute_below hall (by simp) ⟨[]⟩
    rw [parent, hspoken, habsolute] at hup
    obtain rfl : ⟨[]⟩ = up := by simpa [isAbsolute] using hup
    exact .inl rfl

/-- The directories along the names have been made, and no other entry has. -/
structure Laid (d : Disk) (place : Place) (names : List Text) (d' : Disk) : Prop where
  adds : Adds d d'
  paved : d'.Paved place names
  along : ∀ {other}, d.get? other = none → d'.get? other ≠ none →
    ∃ front back, names = front ++ back ∧ front ≠ [] ∧ other = place ++ front

theorem Laid.refl (h : d.Paved place names) : Laid d place names d :=
  ⟨.refl d, h, fun hnone hsome => absurd hnone hsome⟩

theorem Laid.trans {before others : List Text} {d₁ d₂ d₃ : Disk} (h : Laid d₁ place before d₂)
    (k : Laid d₂ place (before ++ others) d₃) : Laid d₁ place (before ++ others) d₃ where
  adds := h.adds.trans k.adds
  paved := k.paved
  along := by
    intro other hnone hsome
    by_cases hmid : d₂.get? other = none
    · exact k.along hmid hsome
    · obtain ⟨front, back, rfl, hne, hother⟩ := h.along hnone hmid
      exact ⟨front, back ++ others, by simp, hne, hother⟩

/-- How the making of a directory ends on a passable way. -/
inductive Made (d : Disk) (place : Place) (names : List Text) : Except Fault Unit × Disk → Prop where
  | laid {d' : Disk} (laid : Laid d place names d') : Made d place names (.ok (), d')
  | spelled {d' : Disk} {fault : Fault} (of_spelling : OfSpelling fault) :
      Made d place names (.error fault, d')

theorem Made.after {before others : List Text} {result : Except Fault Unit × Disk}
    (h : Made d' place (before ++ others) result) (hlaid : Laid d place before d') :
    Made d place (before ++ others) result := by
  cases h with
  | laid hrest => exact .laid (hlaid.trans hrest)
  | spelled hf => exact .spelled hf

theorem MakeResult.ne_notFound {p : Path} {above : Place} (h : MakeResult d p above name) :
    d.makeDirectory p ≠ .error .notFound := by
  intro hmissing
  cases h with
  | spelled fault hf eq hnone =>
    rw [hmissing, Except.error.injEq] at eq
    subst eq
    exact absurd hf (by simp [OfSpelling])
  | there hshort hentry eq hdir => simp [hmissing] at eq
  | made hshort hentry eq => simp [hmissing] at eq

theorem MakeResult.made_paved {p : Path} {before : List Text}
    (h : MakeResult d p (place ++ before) name) (hpaved : d.Paved place before) :
    Made d place (before ++ [name]) (match d.makeDirectory p with
      | .ok d' => (.ok (), d')
      | .error fault => (if d.isDirectory p then .ok () else .error fault, d)) := by
  cases h with
  | spelled fault hf eq hnone =>
    simp only [eq, hnone, Bool.false_eq_true, if_false]
    exact .spelled hf
  | there hshort hentry eq hdir =>
    simp only [eq, hdir, if_true]
    exact .laid (.refl (paved_append.2 ⟨hpaved, ⟨hshort, hentry⟩, trivial⟩))
  | made hshort hentry eq =>
    simp only [eq]
    have hadds := adds_put hentry
    have hput := get?_put_self (d := d) (show place ++ before ++ [name] ≠ [] by simp) .directory
    refine .laid ⟨hadds, paved_append.2 ⟨hadds.grows.paved hpaved, ⟨hshort, hput⟩, trivial⟩, ?_⟩
    intro other hnone hsome
    refine ⟨before ++ [name], [], by simp, by simp, ?_⟩
    by_contra hother
    rw [← List.append_assoc] at hother
    exact hsome (by rw [get?_put_of_ne hother, hnone])

theorem makeLineage_below (ground : d.Ground root place) (hn : AllNames names) (hne : names ≠ [])
    (hpass : d.Passable place names) {fuel : Nat} (hfuel : names.length ≤ fuel) :
    Made d place names (d.makeLineage (lineage.go fuel (ofSegments (root.base ++ names)))) := by
  induction names using List.reverseRecOn generalizing fuel with
  | nil => exact absurd rfl hne
  | append_singleton before name ih =>
    obtain ⟨hbefore, hname⟩ := passable_append.1 hpass
    have htext : (ofSegments (root.base ++ (before ++ [name]))).text ≠ [] :=
      text_below_ne_nil hn hne
    obtain ⟨hfront, hlast⟩ := allNames_append.1 hn
    obtain ⟨fuel, rfl⟩ : ∃ n, fuel = n + 1 := ⟨fuel - 1, by simp at hfuel; omega⟩
    rw [lineage.go, makeLineage, if_neg (by simpa using htext)]
    by_cases hpaved : d.Paved place before
    · have hstep := makeDirectory_paved ground hfront (allNames_cons.1 hlast).1 hpaved hname
      have hmade := hstep.made_paved hpaved
      have hfound : d.makeDirectory (ofSegments (root.base ++ (before ++ [name]))) ≠
          .error .notFound := hstep.ne_notFound
      split
      · next heq => simpa only [heq] using hmade
      · next heq => exact absurd heq hfound
      · next heq => simpa only [heq] using hmade
    · have hne' : before ≠ [] := fun hnil => hpaved (hnil ▸ trivial)
      rcases makeDirectory_unpaved ground hfront (allNames_cons.1 hlast).1 hbefore hpaved with
        hmissing | ⟨fault, hf, heq, hnone⟩
      · simp only [hmissing, parent_below hn hne']
        have hshorter : before.length ≤ fuel := by simpa using hfuel
        have hup := ih hfront hne' hbefore hshorter
        generalize d.makeLineage _ = up at hup ⊢
        cases hup with
        | spelled hf => exact .spelled hf
        | @laid d' hlaid =>
          have hg := hlaid.adds.grows
          have hstep := makeDirectory_paved (hg.ground ground)
            hfront (allNames_cons.1 hlast).1 hlaid.paved (hlaid.adds.passable hname)
          exact (hstep.made_paved hlaid.paved).after hlaid
      · rcases hf with rfl | rfl
        · simp only [heq, hnone, Bool.false_eq_true, if_false]
          exact .spelled (.inl rfl)
        · simp only [heq, hnone, Bool.false_eq_true, if_false]
          exact .spelled (.inr rfl)

theorem makeDirectories_below (ground : d.Ground root place) (hn : AllNames names)
    (hne : names ≠ []) (hpass : d.Passable place names) :
    Made d place names (d.makeDirectories (ofSegments (root.base ++ names))) := by
  refine makeLineage_below ground hn hne hpass ?_
  have hlength := length_segments_le (ofSegments (root.base ++ names))
  rw [segments_below hn hne, List.length_append] at hlength
  omega

/-- Where the way to a file is paved and no directory stands in its place, the file can be written and
found again, if nothing is too long. -/
theorem write_short {before : List Text} (ground : d.Ground root place) (hn : AllNames before)
    (hname : isName name) (hpaved : d.Paved place before)
    (hs : spellingFault (ofSegments (root.base ++ (before ++ [name]))) = none)
    (hshort : name.length ≤ nameLimit)
    (hfree : d.get? (place ++ before ++ [name]) = none ∨
      ∃ old, d.get? (place ++ before ++ [name]) = some (.file old)) (body : ByteArray) :
    ∃ d', d.write (ofSegments (root.base ++ (before ++ [name]))) body = .ok d' ∧
      d' = d.put (place ++ before ++ [name]) (.file body) ∧
      d'.resolve (ofSegments (root.base ++ (before ++ [name]))) = .ok (place ++ before ++ [name]) := by
  have hall : AllNames (before ++ [name]) := by simp [hn, hname]
  have happroach := approach_paved ground hn hname hpaved
  rw [if_neg (Nat.not_lt.2 hshort)] at happroach
  have hwrite : d.write (ofSegments (root.base ++ (before ++ [name]))) body =
      .ok (d.put (place ++ before ++ [name]) (.file body)) := by
    rw [write, hs, writeFrom, happroach]
    rcases hfree with hnone | ⟨old, hold⟩
    · simp only [hnone]
    · simp only [hold]
  have hg := write_grows hwrite
  refine ⟨_, hwrite, rfl, ?_⟩
  rw [resolve_below (hg.ground ground) hall (by simp)]
  have hpaved' := hg.paved hpaved
  have hfound := hpaved'.directory (hg.directory ground.directory)
  refine ⟨hs, ?_⟩
  rw [descend_append hn.no_slash (hpaved'.descend hn) hfound, descend_name hname hshort,
    get?_put_self (by simp)]
  simp

theorem write_paved {before : List Text} (ground : d.Ground root place) (hn : AllNames before)
    (hname : isName name) (hpaved : d.Paved place before)
    (hfree : d.get? (place ++ before ++ [name]) = none ∨
      ∃ old, d.get? (place ++ before ++ [name]) = some (.file old)) (body : ByteArray) :
    (∃ d', d.write (ofSegments (root.base ++ (before ++ [name]))) body = .ok d' ∧
      d' = d.put (place ++ before ++ [name]) (.file body) ∧
      d'.resolve (ofSegments (root.base ++ (before ++ [name]))) = .ok (place ++ before ++ [name])) ∨
    ∃ fault, OfSpelling fault ∧
      d.write (ofSegments (root.base ++ (before ++ [name]))) body = .error fault := by
  have happroach := approach_paved ground hn hname hpaved
  have htext : (ofSegments (root.base ++ (before ++ [name]))).text ≠ [] :=
    text_below_ne_nil (by simp [hn, hname]) (by simp)
  rcases spelling_cases htext with hs | ⟨fault, hs, hf⟩
  · rcases Nat.lt_or_ge nameLimit name.length with hlong | hshort
    · rw [if_pos hlong] at happroach
      exact .inr ⟨.nameTooLong, .inl rfl, by rw [write, hs, writeFrom, happroach]⟩
    · exact .inl (write_short ground hn hname hpaved hs hshort hfree body)
  · exact .inr ⟨fault, hf, by rw [write, hs]⟩

end Disk

end TemplateCheck
