import TemplateCheck.Proofs.Exclusion
import TemplateCheck.Proofs.Footprint
import TemplateCheck.Proofs.Layout

/-!
A check leaves a disk on which it can be run again: artifacts are no templates, so the same templates
are found; their texts are the same, so the compiler answers the same; what is written last to an
artifact is the code that it already holds; and the linter is shown the same files. So the second run
ends with the same report and leaves the disk as it is.
-/
namespace TemplateCheck

open CheckM Path Artifact

theorem Disk.spelled_of_write {d d' : Disk} {p : Path} {body : ByteArray}
    (h : d.write p body = .ok d') : Disk.spellingFault p = none := by
  cases hs : Disk.spellingFault p with
  | none => rfl
  | some fault => simp [Disk.write, hs] at h

theorem Disk.Tree.overwrite {d : Disk} {place : Place} (ht : d.Tree) (hl : d.LinkFree)
    {old : ByteArray} (hf : d.get? place = some (.file old))
    (hs : Disk.spellingFault (ofNames place) = none) (body : ByteArray) :
    d.write (ofNames place) body = .ok (d.put place (.file body)) := by
  have hne : place ≠ [] := by
    rintro rfl
    simp at hf
  have htop : ofSegments ((ofNames []).base ++ place) = ofNames place := by
    rw [base_ofNames allNames_nil, ofNames_eq hne]
    rfl
  obtain ⟨before, name, rfl⟩ := exists_snoc hne
  obtain ⟨hn, hlast⟩ := allNames_append.1 (ht.named hf)
  rw [← htop] at hs ⊢
  have hpaved : d.Paved [] before := ht.paved (by simpa using hf)
  obtain ⟨written, hw, hput, -⟩ := Disk.write_short hl.ground hn (allNames_cons.1 hlast).1 hpaved hs
    (ht.short hf) (.inr ⟨old, by simpa using hf⟩) body
  rw [hw, hput, List.nil_append]

theorem Disk.Changes.alike {Written : Place → ByteArray → Prop} {d d₁ d₂ : Disk}
    (h : Disk.Changes Written d d₁) (k : d₁.Alike d₂) : Disk.Changes Written d d₂ where
  grows := h.grows.trans k.grows
  files := fun {place body} hf => h.files (by rwa [k.entry place] at hf)

theorem Check.ensureDirectory_again {p : Path} {w w' v : World} {u : Unit}
    (h : ensureDirectory p w = .ok u w') (hg : w'.disk.Grows v.disk) :
    ensureDirectory p v = .ok () v := by
  by_cases hp : p.text = []
  · exact ensureDirectory_of_empty hp
  · exact ensureDirectory_of_exists (hg.pathExists (ensureDirectory_exists h hp))

theorem Compilation.makeRoom_again {target : Path} {w w' v : World}
    (h : makeRoom target w = .ok () w') (hg : w'.disk.Grows v.disk) :
    makeRoom target v = .ok () v := by
  cases hp : target.parent with
  | none =>
    rw [makeRoom, hp]
    rfl
  | some directory =>
    rw [makeRoom, hp] at h ⊢
    exact Check.ensureDirectory_again h hg

namespace CheckM

variable {ε α β : Type}

/-- The computation answers the same wherever the same is on the disk. -/
structure GoesByDisk (x : CheckM ε α) : Prop where
  again : ∀ {w v : World} {a : α} {w' : World}, w.disk.Alike v.disk → x w = .ok a w' →
    ∃ v', x v = .ok a v' ∧ w'.disk.Alike v'.disk

namespace GoesByDisk

theorem pure (a : α) : (Pure.pure a : CheckM ε α).GoesByDisk where
  again := by
    intro w v b w' hv h
    obtain ⟨rfl, rfl⟩ := pure_eq_ok.1 h
    exact ⟨v, rfl, hv⟩

theorem bind {x : CheckM ε α} {f : α → CheckM ε β} (hx : x.GoesByDisk)
    (hf : ∀ a, (f a).GoesByDisk) : (x >>= f).GoesByDisk where
  again := by
    intro w v b w' hv h
    obtain ⟨a, w₁, hxw, hfw⟩ := bind_eq_ok.1 h
    obtain ⟨v₁, hxv, hv₁⟩ := hx.again hv hxw
    obtain ⟨v', hfv, hv'⟩ := (hf a).again hv₁ hfw
    exact ⟨v', bind_eq_ok.2 ⟨a, v₁, hxv, hfv⟩, hv'⟩

theorem within {setting : Setting} {x : CheckM ε α} (hx : x.GoesByDisk) :
    (CheckM.within setting x).GoesByDisk where
  again := by
    intro w v a w' hv h
    obtain ⟨w₁, hxw, rfl⟩ := within_eq_ok.1 h
    obtain ⟨v₁, hxv, hv₁⟩ := hx.again (w := { w with context := w.context.apply setting })
      (v := { v with context := v.context.apply setting }) hv hxw
    exact ⟨_, within_ok hxv, hv₁⟩

theorem readDisk {f : Disk → CheckM ε α} (hf : ∀ d, (f d).GoesByDisk)
    (hsame : ∀ {d d' : Disk}, d.Alike d' → f d' = f d) : (CheckM.readDisk >>= f).GoesByDisk where
  again := by
    intro w v a w' hv h
    rw [readDisk_bind] at h
    rw [readDisk_bind, hsame hv]
    exact (hf w.disk).again hv h

theorem quiet {x : CheckM ε Unit} (hx : ∀ w, ∃ w', x w = .ok () w' ∧ Quiet w w') :
    x.GoesByDisk where
  again := by
    intro w v u w' hv h
    obtain ⟨w₁, hw₁, hq⟩ := hx w
    obtain ⟨-, rfl⟩ := EStateM.Result.ok.inj (hw₁.symm.trans h)
    obtain ⟨v₁, hv₁, hq'⟩ := hx v
    refine ⟨v₁, hv₁, ?_⟩
    rw [hq.disk, hq'.disk]
    exact hv

theorem note (level : Log.Level) (area : Log.Area) (message : Text) :
    (CheckM.note level area message : CheckM ε Unit).GoesByDisk :=
  quiet (note_ok level area message)

theorem record (request : Request) : (CheckM.record request : CheckM ε Unit).GoesByDisk :=
  quiet (record_ok request)

theorem note_if {c : Prop} [Decidable c] {level : Log.Level} {area : Log.Area} {message : Text}
    {next : Unit → CheckM ε α} (h : (next ()).GoesByDisk) :
    (if c then CheckM.note level area message >>= next else next ()).GoesByDisk := by
  split
  · exact bind (note level area message) fun _ => h
  · exact h

theorem readText (p : Path) : (Check.readText p).GoesByDisk where
  again := by
    intro w v text w' hv h
    obtain ⟨htext, rfl⟩ := Check.readText_eq_ok.1 h
    exact ⟨v, Check.readText_eq_ok.2 ⟨(hv.readText p).trans htext, rfl⟩, hv⟩

end GoesByDisk

end CheckM

namespace Selection

variable {s : Selection} {d d' : Disk} {root c : Path} {files : List Path}

theorem files_eq (h : s.files d = .ok files)
    (hwalk : ∀ root ∈ s.roots, ∃ walk, walked d' root = .ok walk)
    (hsame : ∀ c, s.Selects d' c ↔ s.Selects d c) : s.files d' = .ok files := by
  obtain ⟨files', h'⟩ := exists_files hwalk
  have hfiles : files' = files := (pairwise_files h').eq_of_mem_iff (pairwise_files h) fun c => by
    rw [mem_files h', mem_files h, hsame]
  rw [h', hfiles]

theorem walked_alike (h : d.Alike d') {walk : List Path} (hw : walked d root = .ok walk) :
    ∃ walk', walked d' root = .ok walk' ∧ ∀ p, p ∈ walk' ↔ p ∈ walk := by
  by_cases hdash : root.same ⟨['-']⟩
  · rw [walked, if_pos hdash] at hw
    exact ⟨walk, by rw [walked, if_pos hdash, hw], fun p => Iff.rfl⟩
  · have hdash : root.same ⟨['-']⟩ = false := by simpa using hdash
    cases hr : d.resolve root with
    | error fault => simp [walked, hdash, hr] at hw
    | ok place =>
      have hr' := (h.resolve root).trans hr
      obtain ⟨walk', hw'⟩ := walked_of_resolve hr'
      refine ⟨walk', hw', fun p => ?_⟩
      rw [mem_walked hw' hdash hr', mem_walked hw hdash hr]
      simp only [h.entry]

theorem selects_alike (h : d.Alike d') (hs : s.Selects d c) : s.Selects d' c := by
  obtain ⟨root, hroot, walk, hw, p, hp, hadmits, hc⟩ := hs
  obtain ⟨walk', hw', hmem⟩ := walked_alike h hw
  refine ⟨root, hroot, walk', hw', p, (hmem p).2 hp, ?_, (h.canonicalize p).trans hc⟩
  rw [admits_iff] at hadmits ⊢
  rwa [h.isFile p]

theorem files_alike (h : d.Alike d') (hf : s.files d = .ok files) : s.files d' = .ok files := by
  refine files_eq hf ?_ fun c => ⟨selects_alike h.symm, selects_alike h⟩
  intro root hroot
  obtain ⟨walk, hw⟩ := walked_of_files hf hroot
  obtain ⟨walk', hw', -⟩ := walked_alike h hw
  exact ⟨walk', hw'⟩

end Selection

/-- A linter that leaves the disk alone, and looks at the files with an extension and at nothing but
their texts. -/
structure Linter.ByContent (linter : Linter) (extension : Text) : Prop where
  leavesDisk : linter.LeavesDisk
  files : ∀ {root v files}, (∃ v₁, linter.files root v = .ok files v₁) ↔
    Selection.files ⟨[root], extension, []⟩ v.disk = .ok files
  findings : ∀ {files v v' findings v₁}, (∀ p ∈ files, v'.disk.readBytes p = v.disk.readBytes p) →
    linter.lint files v = .ok findings v₁ → ∃ v₂, linter.lint files v' = .ok findings v₂

namespace Linting

variable {linter : Linter} {extension : Text}

theorem recordFinding_goesByDisk (m : SourceMap) (finding : Finding) :
    (recordFinding m finding).GoesByDisk := by
  apply GoesByDisk.within
  apply GoesByDisk.readDisk
  · intro d
    exact .note_if (.bind (.readText finding.file) fun content => .pure _)
  · intro d d' h
    have hsource : m.resolve d' finding.file = m.resolve d finding.file := by
      rw [SourceMap.resolve, SourceMap.resolve, h.canonicalize]
    simp only [hsource]

theorem recordAll_goesByDisk (m : SourceMap) (findings : List Finding) :
    (recordAll m findings).GoesByDisk := by
  induction findings with
  | nil => exact .pure []
  | cons finding rest ih =>
    exact .bind (recordFinding_goesByDisk m finding) fun r => .bind ih fun records => .pure _

theorem run_goesByDisk (hl : linter.ByContent extension) (root : Path) (m : SourceMap) :
    (run root linter m).GoesByDisk := by
  have hfiles : (linter.files root).GoesByDisk := by
    constructor
    intro w v files w' hv h
    have hselected := Selection.files_alike hv (hl.files.1 ⟨w', h⟩)
    obtain ⟨v', hv'⟩ := hl.files.2 hselected
    refine ⟨v', hv', ?_⟩
    rw [hl.leavesDisk.keepsDisk.files root h, hl.leavesDisk.keepsDisk.files root hv']
    exact hv
  have hlint : ∀ files, (linter.lint files).GoesByDisk := by
    intro files
    constructor
    intro w v findings w' hv h
    obtain ⟨v', hv'⟩ := hl.findings (fun p _ => hv.readBytes p) h
    refine ⟨v', hv', ?_⟩
    rw [hl.leavesDisk.keepsDisk.lint files h, hl.leavesDisk.keepsDisk.lint files hv']
    exact hv
  apply GoesByDisk.within
  refine .bind (.record _) fun _ => .bind hfiles fun files => .bind (.note _ _ _) fun _ => ?_
  refine .bind (.record _) fun _ => .bind (hlint files) fun findings => ?_
  exact .bind (recordAll_goesByDisk m findings) fun records => .pure _

end Linting

namespace Discovery

variable {d d' : Disk} {dirs directories files : List Path} {dir p c : Path} {extension : Text}
  {exclude : List Text} {w w' v : World} {discovery : Discovery}
  {Written : Place → ByteArray → Prop}

theorem directory?_grown (hg : d.Grows d') (h : directory? d dir = some p) :
    directory? d' dir = some p := by
  rw [directory?_eq_some] at h ⊢
  obtain ⟨place, hr, hdir⟩ := Disk.isDirectory_iff.1 h.2
  exact ⟨hg.canonicalize_eq h.1, Disk.isDirectory_iff.2 ⟨place, hg.resolve_eq hr, hg.directory hdir⟩⟩

/-- A directory contributes what it contributed before, if only files with other extensions were
written. -/
theorem contributes_unchanged (ht : d.Tree) (hl : d.LinkFree) (ht' : d'.Tree)
    (hchanges : Disk.Changes Written d d')
    (hwritten : ∀ {place body}, Written place body → (ofNames place).shownExtension ≠ some extension)
    (hd : directory? d dir = some p) :
    Contributes d' extension exclude p c ↔ Contributes d extension exclude p c := by
  have hl' := hchanges.grows.linkFree hl
  obtain ⟨top, rfl, hn, -, -⟩ := directory_place ht hd
  rw [contributes_iff ht' (directory?_grown hchanges.grows hd) hn, contributes_iff ht hd hn]
  constructor
  · rintro ⟨names, hne, hsome, hfile, hext, hnot, hc⟩
    obtain ⟨found, body, hr, hf⟩ := Disk.isFile_iff.1 hfile
    obtain ⟨entry, he⟩ := Option.ne_none_iff_exists'.1 hsome
    have hall := ht'.named he
    obtain rfl := hl'.place_of_resolve hall hr
    have hold : d.get? (top ++ names) = some (.file body) :=
      (hchanges.files hf).resolve_right fun hw => hwritten hw hext
    have hspelled := ((hl'.resolve_ofNames hall).1 hr).1
    have hwalk : d.descend [] (top ++ names) = .arrived (top ++ names) :=
      ht.descend hold (by simp [hne]) (by simp)
    have hresolve := (hl.resolve_ofNames hall).2 ⟨hspelled, hwalk⟩
    refine ⟨names, hne, by simp [hold], Disk.isFile_iff.2 ⟨_, _, hresolve, hold⟩, hext, hnot, ?_⟩
    obtain ⟨found, hfound, rfl⟩ := Disk.canonicalize_eq_ok.1 hc
    exact Disk.canonicalize_eq_ok.2 ⟨_, hresolve, congrArg _ (Except.ok.inj (hfound.symm.trans hr))⟩
  · rintro ⟨names, hne, hsome, hfile, hext, hnot, hc⟩
    obtain ⟨found, body, hr, hf⟩ := Disk.isFile_iff.1 hfile
    obtain ⟨entry, he⟩ := Option.ne_none_iff_exists'.1 hsome
    obtain rfl := hl.place_of_resolve (ht.named he) hr
    obtain ⟨body', hf'⟩ := hchanges.grows.file hf
    exact ⟨names, hne, by simp [hf'], Disk.isFile_iff.2 ⟨_, _, hchanges.grows.resolve_eq hr, hf'⟩, hext,
      hnot, hchanges.grows.canonicalize_eq hc⟩

theorem select_eq (h : select d directories extension exclude = .ok files)
    (hwalk : ∀ p ∈ directories, ∃ walk, Selection.walked d' p = .ok walk)
    (hsame : ∀ p ∈ directories, ∀ c,
      Contributes d' extension exclude p c ↔ Contributes d extension exclude p c) :
    select d' directories extension exclude = .ok files := by
  obtain ⟨files', h'⟩ : ∃ files', select d' directories extension exclude = .ok files' := by
    unfold select at h ⊢
    split at h
    · next he => exact ⟨[], by rw [if_pos he]⟩
    · next he =>
      rw [if_neg he]
      split at h
      · simp at h
      · exact Selection.exists_files hwalk
  have hmem : ∀ c, c ∈ files' ↔ c ∈ files := by
    intro c
    rw [mem_select h', mem_select h]
    exact exists_congr fun p => and_congr_right fun hp => hsame p hp c
  rw [h', (pairwise_select h').eq_of_mem_iff (pairwise_select h) hmem]

/-- The same templates are found again. -/
theorem run_again (ht : w.disk.Tree) (hl : w.disk.LinkFree) (ht' : v.disk.Tree)
    (hdirs : ∀ dir ∈ dirs, ∃ directory, resolveOne w.disk dir = .directory directory)
    (hchanges : Disk.Changes Written w.disk v.disk)
    (hwritten : ∀ {place body}, Written place body → (ofNames place).shownExtension ≠ some extension)
    (h : run dirs extension exclude w = .ok discovery w') :
    ∃ v', run dirs extension exclude v = .ok discovery v' := by
  have hsame : ∀ dir ∈ dirs, directory? v.disk dir = directory? w.disk dir := by
    intro dir hdir
    cases hd : directory? w.disk dir with
    | some p => exact directory?_grown hchanges.grows hd
    | none =>
      obtain ⟨directory, hdirectory⟩ := hdirs dir hdir
      obtain ⟨reason, hskipped⟩ := resolveOne_of_none hd
      simp [hskipped] at hdirectory
  have hdirectories : directoriesOf v.disk dirs = directoriesOf w.disk dirs := by
    rw [directoriesOf, directoriesOf, List.filterMap_congr hsame]
  have hskipped : skippedOf v.disk dirs = skippedOf w.disk dirs := by
    apply List.filter_congr
    intro dir hdir
    rw [hsame dir hdir]
  obtain ⟨hd, hs, hselect⟩ := exists_run_iff.1 ⟨w', h⟩
  refine exists_run_iff.2 ⟨hdirectories ▸ hd, hskipped ▸ hs, ?_⟩
  rw [hdirectories]
  refine select_eq hselect ?_ ?_
  · intro p hp
    obtain ⟨dir, -, hdir⟩ := mem_directoriesOf.1 hp
    exact walked_of_directory (directory?_grown hchanges.grows hdir)
  · intro p hp c
    obtain ⟨dir, -, hdir⟩ := mem_directoriesOf.1 hp
    exact contributes_unchanged ht hl ht' hchanges hwritten hdir

end Discovery

/-- A compiler that leaves the disk alone, looks at nothing but the text of the template, and blames
only the template. -/
structure Compiler.ByContent (compiler : Compiler) : Prop where
  leavesDisk : compiler.LeavesDisk
  answers : ∀ {source v v' answer v₁}, v'.disk.readBytes source = v.disk.readBytes source →
    compiler.compile source v = .ok answer v₁ → ∃ v₂, compiler.compile source v' = .ok answer v₂
  blames : ∀ {source v error v₁}, compiler.compile source v = .ok (.error error) v₁ →
    error.file = source

namespace Compilation

variable {rootPlace : Place} {compiler : Compiler} {extension : Text} {w w' v : World}
  {done done' outcome : Compilation} {a : Attempt} {attempts : List Attempt} {sources : List Path}

theorem Turn.asked_grows (hc : compiler.KeepsDisk) {root : Path}
    (t : Turn root compiler extension w done a done' w') : a.asked.disk.Grows w'.disk := by
  cases ha : a.answer with
  | ok code =>
    obtain ⟨artifact, hwrite, -⟩ := t.code hc ha
    exact Disk.write_grows hwrite
  | error error =>
    obtain ⟨content, -, -, hdisk⟩ := t.error hc ha
    rw [hdisk]
    exact .refl _

/-- The same is on both disks, but for the artifacts that these attempts write. -/
structure AlikeUpTo (rootPlace : Place) (extension : Text) (attempts : List Attempt) (d d' : Disk) :
    Prop where
  workdir : d'.workdir = d.workdir
  entry : ∀ place, (∀ a ∈ attempts, a.succeeded →
    artifactPlace rootPlace extension a.source ≠ place) → d'.get? place = d.get? place

theorem AlikeUpTo.of_alike {d d' : Disk} (h : d.Alike d') :
    AlikeUpTo rootPlace extension attempts d d' := ⟨h.workdir, fun place _ => h.entry place⟩

theorem AlikeUpTo.alike {d d' : Disk} (h : AlikeUpTo rootPlace extension [] d d') : d.Alike d' :=
  ⟨h.workdir, fun place => h.entry place (by simp)⟩

/-- What becomes of a disk that has the artifact already. -/
def Attempt.rewritten (rootPlace : Place) (extension : Text) (a : Attempt) (d : Disk) : Disk :=
  match a.answer with
  | .ok code => d.put (artifactPlace rootPlace extension a.source) (.file (Text.bytes code))
  | .error _ => d

section Again

variable (hc : compiler.ByContent) (hp : AllNames rootPlace)
  (hy : Bootstrap.isBareExtension extension) (hlw : w.disk.LinkFree)

include hc hp hy hlw

theorem Turn.again (hs : Spelled a.source)
    (t : Turn (ofNames rootPlace) compiler extension w done a done' w') (ht : v.disk.Tree)
    (hl : v.disk.LinkFree) (hg : w'.disk.Grows v.disk)
    (htemplate : v.disk.readBytes a.source = a.asked.disk.readBytes a.source) :
    ∃ b v', b.source = a.source ∧ Turn (ofNames rootPlace) compiler extension v done b done' v' ∧
      v'.disk = a.rewritten rootPlace extension v.disk := by
  have hkeeps := hc.leavesDisk.keepsDisk
  have hvalid := prepare_valid t.prepared
  obtain ⟨v₀, w₁, -, hroom, hasked⟩ := t.room
  have hroom' := makeRoom_again (v := { v with context := v.context.apply (.file a.source) }) hroom
    (hasked ▸ (t.asked_grows hkeeps).trans hg)
  have hcalled : ∀ {v₁ : World}, v₁.disk = v.disk →
      ∃ v₂, compiler.compile a.source v₁ = .ok a.answer v₂ := by
    intro v₁ hv₁
    exact hc.answers (by rw [hv₁, htemplate]) t.called
  cases ha : a.answer with
  | ok code =>
    rw [ha] at hcalled
    obtain ⟨artifact, hwrite, hcanonical, rfl⟩ := t.code hkeeps ha
    obtain ⟨old, hthere⟩ := hg.file (t.code_stands hkeeps hp hy hlw hs ha)
    have hoverwrite : v.disk.write (path (ofNames rootPlace) a.source extension) (Text.bytes code) =
        .ok (v.disk.put (artifactPlace rootPlace extension a.source) (.file (Text.bytes code))) := by
      rw [path_of_spelled hp hs] at hwrite ⊢
      exact ht.overwrite hl hthere (Disk.spelled_of_write hwrite) _
    have hcanonical' := (Disk.write_grows hoverwrite).canonicalize_eq (hg.canonicalize_eq hcanonical)
    obtain ⟨b, v', hb, -, tb, hdisk⟩ := turn_of_steps _ _ hkeeps hvalid hroom' hcalled
      (fun hv₁ => settle_code_ok (hv₁ ▸ hoverwrite) hcanonical' done a.source)
    exact ⟨b, v', hb, tb, by rw [hdisk, Attempt.rewritten, ha]⟩
  | error error =>
    rw [ha] at hcalled
    obtain ⟨content, hread, rfl, -⟩ := t.error hkeeps ha
    have hread' : v.disk.readText error.file = .ok content := by
      have hfile := hc.blames (ha ▸ t.called)
      rwa [hfile, Disk.readText, htemplate, ← hfile, ← Disk.readText]
    have hsettled : ∀ {v₁ : World}, v₁.disk = v.disk → ∃ v₂,
        settle done a.source (path (ofNames rootPlace) a.source extension) (.error error) v₁ =
          .ok (done.addRecord (recordOf error content)) v₂ ∧ v₂.disk = v.disk := by
      intro v₁ hv₁
      rw [← hv₁] at hread' ⊢
      exact settle_error_ok hread' done a.source _
    obtain ⟨b, v', hb, -, tb, hdisk⟩ := turn_of_steps _ _ hkeeps hvalid hroom' hcalled hsettled
    exact ⟨b, v', hb, tb, by rw [hdisk, Attempt.rewritten, ha]⟩

/-- What is rewritten is as it will be in the end, unless an attempt that is still to come writes it
once more. -/
theorem AlikeUpTo.rewritten {w₁ : World} {done₁ : Compilation}
    (t : Turn (ofNames rootPlace) compiler extension w done a done₁ w₁)
    (c : Course (ofNames rootPlace) compiler extension w₁ done₁ attempts done' w')
    (hs : ∀ b ∈ a :: attempts, Spelled b.source) {d : Disk}
    (h : AlikeUpTo rootPlace extension (a :: attempts) w'.disk d) :
    AlikeUpTo rootPlace extension attempts w'.disk (a.rewritten rootPlace extension d) := by
  have hkeeps := hc.leavesDisk.keepsDisk
  rw [List.forall_mem_cons] at hs
  unfold Attempt.rewritten
  cases ha : a.answer with
  | error error =>
    refine ⟨h.workdir, fun place hrest => h.entry place ?_⟩
    refine List.forall_mem_cons.2 ⟨fun hsucceeded => ?_, hrest⟩
    obtain ⟨code, hcode⟩ := Attempt.succeeded_iff.1 hsucceeded
    simp [ha] at hcode
  | ok code =>
    refine ⟨h.workdir, fun place hrest => ?_⟩
    by_cases hplace : artifactPlace rootPlace extension a.source = place
    · subst hplace
      have hstands := t.code_stands hkeeps hp hy hlw hs.1 ha
      rw [Disk.get?_put_self (artifactPlace_names hp hy hs.1).2,
        c.keeps_file hkeeps hp hy ((t.grows hkeeps).linkFree hlw) hs.2 hrest hstands]
    · rw [Disk.get?_put_of_ne (Ne.symm hplace)]
      exact h.entry place (List.forall_mem_cons.2 ⟨fun _ => hplace, hrest⟩)

theorem Course.again {Written : Place → ByteArray → Prop} {d : Disk}
    (c : Course (ofNames rootPlace) compiler extension w done attempts done' w')
    (hs : ∀ a ∈ attempts, Spelled a.source)
    (hwritten : ∀ a ∈ attempts, ∀ code, a.answer = .ok code →
      Written (artifactPlace rootPlace extension a.source) (Text.bytes code))
    (htemplates : ∀ a ∈ attempts, ∀ d', Disk.Changes Written d d' →
      d'.readBytes a.source = a.asked.disk.readBytes a.source)
    (ht : v.disk.Tree) (hl : v.disk.LinkFree) (hg : w'.disk.Grows v.disk)
    (hv : Disk.Changes Written d v.disk)
    (halike : AlikeUpTo rootPlace extension attempts w'.disk v.disk) :
    ∃ again v', again.map Attempt.source = attempts.map Attempt.source ∧
      Course (ofNames rootPlace) compiler extension v done again done' v' ∧
      w'.disk.Alike v'.disk := by
  have hkeeps := hc.leavesDisk.keepsDisk
  induction c generalizing v with
  | nil w done => exact ⟨[], v, rfl, .nil v done, halike.alike⟩
  | @cons w w₁ w' done done₁ done' a rest t course ih =>
    have halike₁ := AlikeUpTo.rewritten hc hp hy hlw t course hs halike
    rw [List.forall_mem_cons] at hs hwritten htemplates
    obtain ⟨b, v₁, hb, tb, hv₁⟩ := t.again hc hp hy hlw hs.1 ht hl ((course.grows hkeeps).trans hg)
      (htemplates.1 _ hv)
    have hg₁ := tb.grows hkeeps
    have hchanges₁ : Disk.Changes Written d v₁.disk := by
      refine hv.trans ?_
      rw [hv₁] at hg₁ ⊢
      unfold Attempt.rewritten at hg₁ ⊢
      cases ha : a.answer with
      | ok code =>
        simp only [ha] at hg₁ ⊢
        exact .of_put hg₁ (artifactPlace_names hp hy hs.1).2 (hwritten.1 code ha)
      | error error => exact .refl _
    obtain ⟨again, v', hagain, course', hv'⟩ := ih ((t.grows hkeeps).linkFree hlw) hs.2 hwritten.2
      htemplates.2 (tb.tree hkeeps ht) (hg₁.linkFree hl) (hg.trans hg₁) hchanges₁ (hv₁ ▸ halike₁)
    exact ⟨b :: again, v', by rw [List.map_cons, hb, hagain, List.map_cons], .cons tb course', hv'⟩

end Again

/-- A compilation of the same templates into the same place. -/
theorem run_again (hc : compiler.ByContent) (hp : AllNames rootPlace)
    (hy : Bootstrap.isBareExtension extension) (hs : ∀ s ∈ sources, Spelled s) (ht : w.disk.Tree)
    (hl : w.disk.LinkFree) (h : run (ofNames rootPlace) sources compiler extension w = .ok outcome w')
    (htemplates : ∀ a, Reaches (ofNames rootPlace) sources compiler extension w a → ∀ d,
      Disk.Changes (Wrote rootPlace sources compiler extension w) w.disk d →
        d.readBytes a.source = a.asked.disk.readBytes a.source) (hv : w'.disk.Alike v.disk) :
    ∃ v', run (ofNames rootPlace) sources compiler extension v = .ok outcome v' ∧
      w'.disk.Alike v'.disk := by
  have hkeeps := hc.leavesDisk.keepsDisk
  obtain ⟨attempts, hsources, begun, finished, hbegun, course, hquiet⟩ := exists_performed h
  have hadds : w.disk.Adds begun.disk := (Check.ensureDirectory_adds hbegun).1
  have hlbegun := hadds.grows.linkFree hl
  have htree := hv.tree (run_tree hkeeps ht h)
  have hchanges := run_changes hc.leavesDisk hp hy hl hs
  rw [diskAfter_of_ok h] at hchanges
  rw [hquiet.disk] at hv hchanges
  have hgrows := course.grows hkeeps
  have hreaches : ∀ a ∈ attempts, Reaches (ofNames rootPlace) sources compiler extension w a :=
    fun a ha => course.reaches hbegun (by rw [hsources, List.append_nil]) ha
  obtain ⟨v₁, hbegun', hdisk⟩ : ∃ v₁, Check.ensureDirectory (ofNames rootPlace) (opened v sources) =
      .ok () v₁ ∧ v₁.disk = v.disk :=
    ⟨_, Check.ensureDirectory_again hbegun (hgrows.trans hv.grows), rfl⟩
  rw [← hdisk] at hv htree
  obtain ⟨again, v₂, hagain, course', halike⟩ := course.again hc hp hy hlbegun
    (fun a ha => hs _ (hsources ▸ List.mem_map_of_mem ha))
    (fun a ha code hcode => ⟨a, code, hreaches a ha, hcode, rfl, rfl⟩)
    (fun a ha => htemplates a (hreaches a ha)) htree (hv.grows.linkFree (hgrows.linkFree hlbegun))
    hv.grows (hchanges.alike hv) (.of_alike hv)
  obtain ⟨v', hrun, hfinal⟩ := run_of_course hbegun' (hagain.trans hsources) course'
  exact ⟨v', hrun, by rwa [hquiet.disk, hfinal]⟩

end Compilation

namespace Scripted

theorem obey_anywhere {rule : Rule} {path : Path} {answer : Except CompileError Text} {v v₁ : World}
    (h : obey rule path v = .ok answer v₁) (v' : World) : obey rule path v' = .ok answer v' := by
  cases rule with
  | code text =>
    obtain ⟨rfl, -⟩ := pure_eq_ok.1 h
    rfl
  | crash payload => exact absurd h crash_ne_ok
  | fatal program reason => exact absurd h fail_ne_ok
  | mistake message line file =>
    obtain ⟨rfl, -⟩ := pure_eq_ok.1 h
    rfl

variable {rules : List (Text × Rule)} {path : Path} {rule : Rule}

theorem compile_of_rule (h : ruleFor? rules path = some rule) :
    (compiler rules).compile path = obey rule path := by
  simp only [compiler, h]

theorem compile_of_none (h : ruleFor? rules path = none) :
    (compiler rules).compile path = Check.readText path >>= fun text => pure (.ok text) := by
  simp only [compiler, h]

/-- A script goes by the text of a template, or by its name, and blames it unless told otherwise. -/
theorem compiler_byContent
    (h : ∀ entry ∈ rules, ∀ message line file, entry.2 ≠ .mistake message line (some file)) :
    (compiler rules).ByContent where
  leavesDisk := compiler_leavesDisk rules
  answers := by
    intro source v v' answer v₁ hsame hv
    cases hrule : ruleFor? rules source with
    | some rule =>
      rw [compile_of_rule hrule] at hv ⊢
      exact ⟨v', obey_anywhere hv v'⟩
    | none =>
      rw [compile_of_none hrule] at hv ⊢
      obtain ⟨text, v₂, hread, hv⟩ := bind_eq_ok.1 hv
      obtain ⟨rfl, -⟩ := pure_eq_ok.1 hv
      obtain ⟨htext, -⟩ := Check.readText_eq_ok.1 hread
      rw [Disk.readText, ← hsame, ← Disk.readText] at htext
      exact ⟨v', bind_eq_ok.2 ⟨text, v', Check.readText_eq_ok.2 ⟨htext, rfl⟩, rfl⟩⟩
  blames := by
    intro source v error v₁ hv
    cases hrule : ruleFor? rules source with
    | none =>
      rw [compile_of_none hrule] at hv
      obtain ⟨text, v₂, -, hv⟩ := bind_eq_ok.1 hv
      obtain ⟨he, -⟩ := pure_eq_ok.1 hv
      simp at he
    | some rule =>
      rw [compile_of_rule hrule] at hv
      obtain ⟨name, -, hlookup⟩ := Option.bind_eq_some_iff.1 hrule
      obtain ⟨before, after, hrules, -⟩ := List.lookup_eq_some_iff.1 hlookup
      cases rule with
      | code text =>
        obtain ⟨he, -⟩ := pure_eq_ok.1 hv
        simp at he
      | crash payload => exact absurd hv crash_ne_ok
      | fatal program reason => exact absurd hv fail_ne_ok
      | mistake message line file =>
        obtain ⟨he, -⟩ := pure_eq_ok.1 hv
        obtain rfl := Except.error.inj he
        cases file with
        | none => rfl
        | some file => exact absurd rfl (h (Path.display ⟨name⟩, _) (by simp [hrules]) message line file)

theorem linter_byContent {s : LintScript} (h : s.files = none) :
    (linter s).ByContent s.extension where
  leavesDisk := linter_leavesDisk s
  files := by
    intro root v files
    simp only [linter, h, readDisk_bind]
    constructor
    · rintro ⟨v₁, hv⟩
      exact (ofExcept_eq_ok.1 hv).1
    · intro hfiles
      exact ⟨v, ofExcept_eq_ok.2 ⟨hfiles, rfl⟩⟩
  findings := by
    intro files v v' findings v₁ _ hv
    cases hfatal : s.fatal with
    | some fault =>
      simp only [linter, hfatal] at hv
      exact absurd hv fail_ne_ok
    | none =>
      simp only [linter, hfatal] at hv ⊢
      obtain ⟨rfl, -⟩ := pure_eq_ok.1 hv
      exact ⟨v', rfl⟩

end Scripted

namespace Pipeline

open Compilation

variable {dirs : List Path} {root canonical : Path} {compiler : Compiler} {linter : Linter}
  {options : Options} {w w' v begun : World} {report : Report} {discovery : Discovery} {d : Disk}
  {Written : Place → ByteArray → Prop}

/-- The templates are found again, and the root is there. -/
theorem opening_again (ht : w.disk.Tree) (hl : w.disk.LinkFree) (ht' : v.disk.Tree)
    (hdirs : ∀ dir ∈ dirs, ∃ directory, Discovery.resolveOne w.disk dir = .directory directory)
    (hchanges : Disk.Changes Written w.disk v.disk)
    (hwritten : ∀ {place body}, Written place body →
      (ofNames place).shownExtension ≠ some options.templateExtension)
    (h : opening dirs root options w = .ok (discovery, canonical) begun)
    (hg : begun.disk.Grows v.disk) :
    ∃ v', opening dirs root options v = .ok (discovery, canonical) v' ∧ v'.disk = v.disk := by
  obtain ⟨discovered, v₀, hd, -, he, hcanonical⟩ := opening_steps h
  obtain ⟨v₁, hv₁⟩ := Discovery.run_again ht hl ht' hdirs hchanges hwritten hd
  have hdisk := (Discovery.run_eq_ok hv₁).1.disk
  have hrest : ∀ {v₂ : World}, v₂.disk = v.disk →
      (Check.ensureDirectory root >>= fun _ => Check.canonicalize root >>= fun canonical =>
        pure (discovery, canonical)) v₂ = .ok (discovery, canonical) v₂ := by
    intro v₂ hv₂
    rw [← hv₂] at hg
    rw [bind_of_ok (Check.ensureDirectory_again he hg),
      bind_of_ok (Check.canonicalize_eq_ok.2 ⟨hg.canonicalize_eq hcanonical, rfl⟩)]
    rfl
  rw [opening, bind_of_ok hv₁]
  apply note_if_ok
  intro v₂ hv₂
  exact ⟨v₂, hrest (hv₂.trans hdisk), hv₂.trans hdisk⟩

theorem opening_tree (ht : w.disk.Tree)
    (h : opening dirs root options w = .ok (discovery, canonical) begun) : begun.disk.Tree := by
  obtain ⟨discovered, v₀, -, hdisk, he, -⟩ := opening_steps h
  exact Check.ensureDirectory_tree (hdisk ▸ ht) he

theorem readBytes_of_sameFiles {discovered : World} {p : Path} (ht : w.disk.Tree)
    (hl : w.disk.LinkFree)
    (hd : Discovery.run dirs options.templateExtension options.exclude w = .ok discovery discovered)
    (hg : w.disk.Grows d) (hsame : SameFiles discovery.files w.disk d) (hp : p ∈ discovery.files) :
    d.readBytes p = w.disk.readBytes p := by
  obtain ⟨place, hpasses⟩ := (Discovery.mem_files_iff_passes ht hd).1 hp
  have hspelled : p = ofNames place := by
    rcases hpasses.spelled_or_link ht with hspelled | ⟨target, hlink⟩
    · exact hspelled
    · exact absurd hlink (hl place target)
  obtain ⟨-, -, -, -, -, -, -, -, hfile, -⟩ := hpasses
  rw [← hspelled] at hfile
  obtain ⟨found, body, hr, hf⟩ := Disk.isFile_iff.1 hfile
  obtain ⟨place', body', hplace', hold, hnew⟩ := hsame p hp
  rw [hplace'] at hr ⊢
  obtain rfl := hl.place_of_resolve (ht.named hold) hr
  simp only [Disk.readBytes, hr, hg.resolve_eq hr, hold, hnew]

theorem ArtifactWrite.shownExtension {a : Attempt} {place : Place} {body : ByteArray}
    (hy : Bootstrap.isBareExtension options.targetExtension)
    (h : ArtifactWrite dirs root compiler options w discovery canonical a place body) :
    (ofNames place).shownExtension = some options.targetExtension := by
  obtain ⟨begun, hopening, -⟩ := h.reached
  obtain ⟨rootPlace, rfl, hp, -, hs⟩ := opening_place hopening
  have hspelled := hs _ h.source
  rw [← h.target, path_of_spelled hp hspelled]
  exact shownExtension_of_spelled hp hy hspelled

section Settings

variable (ht : w.disk.Tree) (hl : w.disk.LinkFree)
  (hy : Bootstrap.isBareExtension options.targetExtension)
  (hxy : options.templateExtension ≠ options.targetExtension) (hc : compiler.ByContent)

include ht hl hy hxy hc

theorem compilation_again {outcome : Compilation} {compiled : World}
    (hopening : opening dirs root options w = .ok (discovery, canonical) begun)
    (h : Compilation.run canonical discovery.files compiler options.targetExtension begun =
      .ok outcome compiled) (hv : compiled.disk.Alike v.disk) :
    ∃ v', Compilation.run canonical discovery.files compiler options.targetExtension v =
      .ok outcome v' ∧ compiled.disk.Alike v'.disk := by
  obtain ⟨⟨discovered, hd⟩, -⟩ := opening_eq_ok hopening
  obtain ⟨rootPlace, rfl, hp, hadds, hs⟩ := opening_place hopening
  refine Compilation.run_again hc hp hy hs (opening_tree ht hopening) (hadds.grows.linkFree hl) h ?_ hv
  intro a ha d hchanges
  have hasked := asked_changes hl hy hxy hc.leavesDisk hopening ha
  have hlater := (Disk.Changes.of_adds hadds).trans
    (hchanges.mono (artifactWrite_of_wrote hl hy hxy hopening hp))
  obtain ⟨v₁, hcomes, -⟩ := ha
  rw [readBytes_of_sameFiles ht hl hd hlater.grows
      (sameFiles_of_changes hd hlater fun _ _ ⟨_, hw⟩ => hw.noTemplate) hcomes.mem,
    readBytes_of_sameFiles ht hl hd hasked.grows
      (sameFiles_of_changes hd hasked fun _ _ ⟨_, hw⟩ => hw.noTemplate) hcomes.mem]

/-- A check that is run again on the disk that it has left ends with the same report, and leaves the
disk as it is. -/
theorem repeated_check_agrees (hlinter : linter.ByContent options.targetExtension)
    (hdirs : ∀ dir ∈ dirs, ∃ directory, Discovery.resolveOne w.disk dir = .directory directory)
    (h : run dirs root compiler linter options w = .ok report w') (hv : w'.disk.Alike v.disk) :
    ∃ v', run dirs root compiler linter options v = .ok report v' ∧ w'.disk.Alike v'.disk := by
  rw [run_eq_opening] at h ⊢
  obtain ⟨⟨discovery, canonical⟩, begun, hopening, h⟩ := bind_eq_ok.1 h
  obtain ⟨outcome, compiled, hcompile, hlint⟩ := bind_eq_ok.1 h
  -- what follows the compilation leaves the disk as it is
  have hdisk : w'.disk = compiled.disk :=
    (LeavesDisk.bind .note fun _ => .bind (Linting.run_leavesDisk hlinter.leavesDisk canonical
      outcome.sourceMap) fun _ => .pure _).keepsDisk hlint
  rw [hdisk] at hv
  have hcompiled := compilation_changes hl hy hxy hc.leavesDisk hopening
  rw [diskAfter_of_ok hcompile] at hcompiled
  have hgrows := (run_grows hc.leavesDisk.keepsDisk hcompile).trans hv.grows
  have htree := hv.tree (run_tree hc.leavesDisk.keepsDisk (opening_tree ht hopening) hcompile)
  obtain ⟨v₁, hopening', hv₁⟩ := opening_again ht hl htree hdirs (hcompiled.alike hv) (by
    rintro place body ⟨a, hw⟩
    rw [hw.shownExtension hy]
    simpa using hxy.symm) hopening hgrows
  rw [← hv₁] at hv
  obtain ⟨v₂, hcompile', hv₂⟩ := compilation_again ht hl hy hxy hc hopening hcompile hv
  obtain ⟨v₃, hlint', hv₃⟩ := (GoesByDisk.bind (.note _ _ _) fun _ =>
    .bind (Linting.run_goesByDisk hlinter canonical outcome.sourceMap) fun linted => .pure _).again
      hv₂ hlint
  exact ⟨v₃, bind_eq_ok.2 ⟨_, v₁, hopening', bind_eq_ok.2 ⟨_, v₂, hcompile', hlint'⟩⟩, hv₃⟩

end Settings

/-- The compiled root lies in the directory of the templates and holds a file already, and one of the
templates is broken. -/
def nestedDisk : Disk where
  entries := [(["t"], .directory), (["t", "a.latte"], .file (Text.bytes "A")),
    (["t", "b.latte"], .file (Text.bytes "B")), (["t", "out"], .directory),
    (["t", "out", "old.php"], .file (Text.bytes "O"))]
  workdir := []
  workdir_names := allNames_nil

def nestedCompiler : Compiler := Scripted.compiler [("b.latte", .mistake "broken" 3 none)]

def nestedLinter : Linter :=
  Scripted.linter { extension := "php", rules := [("a.php", [(2, "bad")]), ("old.php", [(1, "stale")])] }

theorem repeated_check_agrees_nested : ∃ report w w',
    run ["/t"] "/t/out" nestedCompiler nestedLinter ⟨"latte", "php", []⟩ { disk := nestedDisk } =
      .ok report w ∧
    run ["/t"] "/t/out" nestedCompiler nestedLinter ⟨"latte", "php", []⟩ w = .ok report w' ∧
    w.disk.Alike w'.disk ∧ report.count = 3 := by
  have hrun : outcome? (fun report _ => report.count) (run ["/t"] "/t/out" nestedCompiler nestedLinter
      ⟨"latte", "php", []⟩ { disk := nestedDisk }) = some 3 := by
    decide +kernel
  obtain ⟨report, w, h, hcount⟩ := exists_of_outcome hrun
  have ht : nestedDisk.Tree := Disk.tree_of_entries (by decide) (by decide +kernel)
  have hl : nestedDisk.LinkFree := Disk.linkFree_of_entries (by decide)
  have hcompiler : nestedCompiler.ByContent := Scripted.compiler_byContent (by simp)
  have hlinter : nestedLinter.ByContent "php" := Scripted.linter_byContent rfl
  have hdirs : ∀ dir ∈ [("/t" : Path)], ∃ directory,
      Discovery.resolveOne nestedDisk dir = .directory directory := by
    intro dir hdir
    obtain rfl := List.mem_singleton.1 hdir
    exact ⟨"/t", by decide +kernel⟩
  obtain ⟨w', h', halike⟩ := repeated_check_agrees ht hl (by decide) (by decide) hcompiler
    hlinter hdirs h (.refl _)
  exact ⟨report, w, w', h, h', halike, hcount⟩

end Pipeline

end TemplateCheck
