import TemplateCheck.Proofs.Blocking
import TemplateCheck.Proofs.ExitStatus
import TemplateCheck.Proofs.Stopping

/-!
However a check ends, and wherever its compiled root lies, it removes nothing, and the files that it
creates or changes are the artifacts of templates that compiled. Artifacts and templates have
different extensions, so no template is ever changed.
-/
namespace TemplateCheck

open CheckM Path Artifact

namespace Discovery

theorem go_leavesDisk (dirs found skipped : List Path) :
    (resolve.go dirs found skipped).LeavesDisk := by
  induction dirs generalizing found skipped with
  | nil => exact .pure _
  | cons dir rest ih =>
    rw [resolve.go]
    refine .bind .readDisk fun d => ?_
    cases resolveOne d dir with
    | directory path => exact ih _ _
    | skipped reason => exact .bind .note fun _ => ih _ _

theorem run_leavesDisk (dirs : List Path) (extension : Text) (exclude : List Text) :
    (run dirs extension exclude).LeavesDisk := by
  refine .within (.bind (go_leavesDisk dirs [] []) fun _ => .bind .readDisk fun d => ?_)
  exact .bind (.ofExcept id _) fun _ => .bind .note fun _ => .pure _

end Discovery

namespace Linting

theorem recordFinding_leavesDisk (m : SourceMap) (finding : Finding) :
    (recordFinding m finding).LeavesDisk := by
  refine .within (.bind .readDisk fun d => ?_)
  exact .note_if (.bind (.readText _) fun _ => .pure _)

theorem recordAll_leavesDisk (m : SourceMap) (findings : List Finding) :
    (recordAll m findings).LeavesDisk := by
  induction findings with
  | nil => exact .pure _
  | cons finding rest ih =>
    exact .bind (recordFinding_leavesDisk m finding) fun _ => .bind ih fun _ => .pure _

theorem run_leavesDisk {linter : Linter} (hl : linter.LeavesDisk) (root : Path) (m : SourceMap) :
    (run root linter m).LeavesDisk := by
  refine .within (.bind (.record _) fun _ => .bind (hl.files root) fun files => ?_)
  refine .bind .note fun _ => .bind (.record _) fun _ => .bind (hl.lint files) fun findings => ?_
  exact .bind (recordAll_leavesDisk m findings) fun _ => .pure _

end Linting

/-- The disk has grown, and each file is as it was or has been written. -/
structure Disk.Changes (Written : Place → ByteArray → Prop) (d d' : Disk) : Prop where
  grows : Disk.Grows d d'
  files : ∀ {place body}, d'.get? place = some (.file body) →
    d.get? place = some (.file body) ∨ Written place body

namespace Disk.Changes

variable {Written : Place → ByteArray → Prop} {d d₁ d' : Disk} {place : Place} {body : ByteArray}

theorem trans (h : Disk.Changes Written d d₁) (k : Disk.Changes Written d₁ d') :
    Disk.Changes Written d d' where
  grows := h.grows.trans k.grows
  files := by
    intro place body hf
    rcases k.files hf with hf | hw
    · exact h.files hf
    · exact .inr hw

theorem mono {Written' : Place → ByteArray → Prop} (h : Disk.Changes Written d d')
    (hw : ∀ {place body}, Written place body → Written' place body) : Disk.Changes Written' d d' where
  grows := h.grows
  files := fun hf => (h.files hf).imp_right hw

theorem of_adds (h : Disk.Adds d d') : Disk.Changes Written d d' where
  grows := h.grows
  files := fun hf => .inl (h.file_iff.1 hf)

theorem refl (d : Disk) : Disk.Changes Written d d := .of_adds (.refl d)

theorem of_put (hgrows : Disk.Grows d (d.put place (.file body))) (hne : place ≠ [])
    (hwritten : Written place body) : Disk.Changes Written d (d.put place (.file body)) where
  grows := hgrows
  files := by
    intro other content hf
    by_cases h : other = place
    · subst h
      rw [Disk.get?_put_self hne] at hf
      obtain rfl : body = content := by simpa using hf
      exact .inr hwritten
    · exact .inl (by rwa [Disk.get?_put_of_ne h] at hf)

theorem kept (h : Disk.Changes Written d d') (hf : d.get? place = some (.file body))
    (hnot : ∀ content, ¬Written place content) : d'.get? place = some (.file body) := by
  obtain ⟨content, hcontent⟩ := h.grows.file hf
  rcases h.files hcontent with hsame | hw
  · rwa [← hf, hsame]
  · exact absurd hw (hnot content)

end Disk.Changes

namespace Compilation

variable {rootPlace : Place} {root : Path} {compiler : Compiler} {extension : Text} {w w' v : World}
  {done done' : Compilation} {a : Attempt} {attempts : List Attempt} {sources : List Path}
  {source : Path} {halt : Halt CheckError} {d : Disk}

theorem locate_leavesDisk : (Artifact.locate root source extension : Check Path).LeavesDisk := by
  unfold Artifact.locate
  split
  · exact .pure _
  · exact .crash _

theorem halts_makeRoom {target : Path} (h : Halts (makeRoom target) w halt d) :
    Disk.Adds w.disk d := by
  unfold makeRoom at h
  split at h
  · exact Check.halts_ensureDirectory h
  · exact absurd h not_halts_pure

theorem Turn.answers (t : Turn root compiler extension w done a done' w') :
    Answers root compiler extension w a := ⟨t.prepared, t.called⟩

theorem Course.split {before after : List Attempt}
    (c : Course root compiler extension w done (before ++ after) done' w') :
    ∃ done₁ w₁, Course root compiler extension w done before done₁ w₁ ∧
      Course root compiler extension w₁ done₁ after done' w' := by
  induction before generalizing w done with
  | nil => exact ⟨done, w, .nil _ _, c⟩
  | cons first rest ih =>
    cases c with
    | cons t c =>
      obtain ⟨done₁, w₁, hbefore, hafter⟩ := ih c
      exact ⟨done₁, w₁, .cons t hbefore, hafter⟩

theorem Course.reaches {begun : World} {rest : List Path}
    (hbegun : Check.ensureDirectory root (opened w sources) = .ok () begun)
    (hsources : sources = attempts.map Attempt.source ++ rest)
    (c : Course root compiler extension begun {} attempts done v) (ha : a ∈ attempts) :
    Reaches root sources compiler extension w a := by
  obtain ⟨before, after, rfl⟩ := List.append_of_mem ha
  obtain ⟨done₁, w₁, hbefore, hafter⟩ := c.split
  cases hafter with
  | cons t _ =>
    refine ⟨w₁, ⟨begun, before, after.map Attempt.source ++ rest, done₁, hbegun, ?_, hbefore⟩, t.answers⟩
    simp [hsources]

theorem Answers.write_at (hc : compiler.KeepsDisk) (hp : AllNames rootPlace)
    (hx : Bootstrap.isBareExtension extension) (hl : w.disk.LinkFree) (hs : Spelled a.source)
    (h : Answers (ofNames rootPlace) compiler extension w a) {body : ByteArray}
    (hw : a.answered.disk.write (Artifact.path (ofNames rootPlace) a.source extension) body = .ok d) :
    d = a.answered.disk.put (artifactPlace rootPlace extension a.source) (.file body) := by
  obtain ⟨hn, hne⟩ := artifactPlace_names hp hx hs
  have hanswered := (h.adds hc).grows.linkFree hl
  rw [path_below_top hp hx hs] at hw
  have hput := Disk.write_below hanswered.ground hn hne hw
  rwa [List.nil_append] at hput

section Changes

variable {Written : Place → ByteArray → Prop} (hc : compiler.LeavesDisk) (hp : AllNames rootPlace)
  (hx : Bootstrap.isBareExtension extension)

include hc hp hx

theorem Answers.changes (hl : w.disk.LinkFree) (hs : Spelled a.source)
    (h : Answers (ofNames rootPlace) compiler extension w a) {code : Text}
    (hw : a.answered.disk.write (Artifact.path (ofNames rootPlace) a.source extension)
      (Text.bytes code) = .ok d)
    (hwritten : Written (artifactPlace rootPlace extension a.source) (Text.bytes code)) :
    Disk.Changes Written w.disk d := by
  have hput := h.write_at hc.keepsDisk hp hx hl hs hw
  have hgrows := Disk.write_grows hw
  rw [hput] at hgrows ⊢
  exact (Disk.Changes.of_adds (h.adds hc.keepsDisk)).trans
    (.of_put hgrows (artifactPlace_names hp hx hs).2 hwritten)

theorem Turn.changes (hl : w.disk.LinkFree) (hs : Spelled a.source)
    (t : Turn (ofNames rootPlace) compiler extension w done a done' w')
    (hwritten : ∀ code, a.answer = .ok code →
      Written (artifactPlace rootPlace extension a.source) (Text.bytes code)) :
    Disk.Changes Written w.disk w'.disk := by
  cases ha : a.answer with
  | ok code =>
    obtain ⟨w₁, hsettle, rfl⟩ := t.settled
    rw [ha] at hsettle
    obtain ⟨-, hw, -⟩ := settle_code hsettle
    exact t.answers.changes hc hp hx hl hs hw (hwritten code ha)
  | error error =>
    exact .of_adds (t.adds_of_failed hc.keepsDisk (Attempt.failed_iff.2 ⟨error, ha⟩))

theorem Course.changes (hl : w.disk.LinkFree)
    (c : Course (ofNames rootPlace) compiler extension w done attempts done' w')
    (hs : ∀ a ∈ attempts, Spelled a.source)
    (hwritten : ∀ a ∈ attempts, ∀ code, a.answer = .ok code →
      Written (artifactPlace rootPlace extension a.source) (Text.bytes code)) :
    Disk.Changes Written w.disk w'.disk := by
  induction c with
  | nil w done => exact .refl _
  | cons t _ ih =>
    rw [List.forall_mem_cons] at hs hwritten
    have hturn := t.changes hc hp hx hl hs.1 hwritten.1
    exact hturn.trans (ih (hturn.grows.linkFree hl) hs.2 hwritten.2)

/-- A turn that is cut short leaves at most directories, or an artifact that cannot be found again. -/
theorem Obstacle.changes (hl : w.disk.LinkFree) (hs : Spelled source)
    (h : Obstacle (ofNames rootPlace) compiler extension w source halt d)
    (hwritten : ∀ a, Answers (ofNames rootPlace) compiler extension w a → a.source = source →
      ∀ code, a.answer = .ok code →
        Written (artifactPlace rootPlace extension a.source) (Text.bytes code)) :
    Disk.Changes Written w.disk d := by
  cases h with
  | name _ _ h =>
    rw [locate_leavesDisk.disk_of_halts h]
    exact .refl _
  | directory _ h =>
    have hadds : Disk.Adds (w.enter (.file source)).disk d := halts_makeRoom h
    exact .of_adds hadds
  | compiler hprepared h =>
    rw [(hc source).disk_of_halts h]
    exact .of_adds (prepare_adds hprepared).1
  | write ha _ _ h =>
    rw [Check.halts_writeText h]
    exact .of_adds (ha.adds hc.keepsDisk)
  | resolve ha hturn hcode hw h =>
    subst hturn
    rw [(LeavesDisk.canonicalize _).disk_of_halts h]
    obtain ⟨disk, hdisk, rfl⟩ := Check.writeText_eq_ok.1 hw
    exact ha.changes hc hp hx hl hs hdisk (hwritten _ ha rfl _ hcode)

end Changes

theorem ComesTo.mem (h : ComesTo root sources compiler extension w source v) : source ∈ sources := by
  obtain ⟨_, before, rest, _, -, rfl, -⟩ := h
  simp

/-- An attempt of the compilation wrote the body to the place of its artifact. -/
def Wrote (rootPlace : Place) (sources : List Path) (compiler : Compiler) (extension : Text)
    (w : World) (place : Place) (body : ByteArray) : Prop :=
  ∃ a code, Reaches (ofNames rootPlace) sources compiler extension w a ∧ a.answer = .ok code ∧
    place = artifactPlace rootPlace extension a.source ∧ body = Text.bytes code

section Run

variable (hc : compiler.LeavesDisk) (hp : AllNames rootPlace)
  (hx : Bootstrap.isBareExtension extension) (hl : w.disk.LinkFree) (hs : ∀ s ∈ sources, Spelled s)

include hc hp hx hl hs

theorem Course.changes_since_start {begun : World} {rest : List Path}
    (hbegun : Check.ensureDirectory (ofNames rootPlace) (opened w sources) = .ok () begun)
    (hsources : sources = attempts.map Attempt.source ++ rest)
    (c : Course (ofNames rootPlace) compiler extension begun {} attempts done v) :
    Disk.Changes (Wrote rootPlace sources compiler extension w) w.disk v.disk := by
  have hadds : Disk.Adds w.disk begun.disk := (Check.ensureDirectory_adds hbegun).1
  refine (Disk.Changes.of_adds hadds).trans (c.changes hc hp hx (hadds.grows.linkFree hl) ?_ ?_)
  · intro a ha
    refine hs a.source ?_
    rw [hsources]
    exact List.mem_append_left _ (List.mem_map_of_mem ha)
  · intro a ha code hcode
    exact ⟨a, code, c.reaches hbegun hsources ha, hcode, rfl, rfl⟩

theorem ComesTo.changes (h : ComesTo (ofNames rootPlace) sources compiler extension w source v) :
    Disk.Changes (Wrote rootPlace sources compiler extension w) w.disk v.disk := by
  obtain ⟨begun, before, rest, done, hbegun, hsources, hcourse⟩ := h
  exact hcourse.changes_since_start hc hp hx hl hs hbegun hsources

theorem run_changes : Disk.Changes (Wrote rootPlace sources compiler extension w) w.disk
    ((run (ofNames rootPlace) sources compiler extension).diskAfter w) := by
  rcases ok_or_halts (run (ofNames rootPlace) sources compiler extension) w with
    ⟨outcome, w', h⟩ | ⟨halt, d, h⟩
  · rw [diskAfter_of_ok h]
    obtain ⟨attempts, hsources, begun, finished, hbegun, hcourse, hquiet⟩ := exists_performed h
    have hall : sources = attempts.map Attempt.source ++ [] := by rw [hsources, List.append_nil]
    rw [hquiet.disk]
    exact hcourse.changes_since_start hc hp hx hl hs hbegun hall
  · rw [diskAfter_of_halts h]
    rcases halts_run.1 h with h | ⟨source, v, hcomes, h⟩ | ⟨a, error, ⟨v, hcomes, ha⟩, -, h⟩
    · have hadds : Disk.Adds (opened w sources).disk d := Check.halts_ensureDirectory h
      exact .of_adds hadds
    · have hbefore := hcomes.changes hc hp hx hl hs
      refine hbefore.trans (h.changes hc hp hx (hbefore.grows.linkFree hl) (hs _ hcomes.mem) ?_)
      rintro a ha rfl code hcode
      exact ⟨a, code, ⟨v, hcomes, ha⟩, hcode, rfl, rfl⟩
    · rw [(LeavesDisk.readText error.file).disk_of_halts h]
      exact (hcomes.changes hc hp hx hl hs).trans (.of_adds (ha.adds hc.keepsDisk))

end Run

end Compilation

theorem Check.ensureDirectory_after (p : Path) (w : World) :
    Disk.Adds w.disk ((Check.ensureDirectory p).diskAfter w) := by
  rcases ok_or_halts (Check.ensureDirectory p) w with ⟨_, w', h⟩ | ⟨halt, d, h⟩
  · rw [diskAfter_of_ok h]
    exact (Check.ensureDirectory_adds h).1
  · rw [diskAfter_of_halts h]
    exact Check.halts_ensureDirectory h

namespace Pipeline

open Compilation

/-- All that comes before the first template has its turn: the templates, and the canonical path of
the root. -/
def opening (dirs : List Path) (root : Path) (options : Options) : Check (Discovery × Path) := do
  let discovery ← Discovery.run dirs options.templateExtension options.exclude
  if !discovery.skipped.isEmpty then
    note .warn .pipeline ("Skipped " ++ Text.decimal discovery.skipped.length ++ " of " ++
      Text.decimal dirs.length ++ " input path(s)")
  Check.ensureDirectory root
  let canonical ← Check.canonicalize root
  return (discovery, canonical)

variable {dirs : List Path} {root : Path} {compiler : Compiler} {linter : Linter} {options : Options}
  {w : World} {discovery : Discovery} {canonical : Path}

theorem run_eq_opening : run dirs root compiler linter options =
    opening dirs root options >>= fun (discovery, canonical) =>
      Compilation.run canonical discovery.files compiler options.targetExtension >>= fun outcome =>
        note .info .pipeline ("Compiled " ++ Text.decimal outcome.compiled.length ++ " of " ++
          Text.decimal discovery.files.length ++ " template(s) into " ++ canonical.display) >>= fun _ =>
        Linting.run canonical linter outcome.sourceMap >>= fun linted =>
        return outcome.report.append linted := by
  unfold run opening
  rw [bind_assoc]
  congr 1
  funext discovery
  split <;> simp only [bind_assoc, pure_bind]

theorem opening_steps {begun : World}
    (h : opening dirs root options w = .ok (discovery, canonical) begun) :
    ∃ discovered v, Discovery.run dirs options.templateExtension options.exclude w =
        .ok discovery discovered ∧ v.disk = w.disk ∧
      Check.ensureDirectory root v = .ok () begun ∧
      begun.disk.canonicalize root = .ok canonical := by
  obtain ⟨found, discovered, hd, h⟩ := bind_eq_ok.1 h
  obtain ⟨v, hq, h⟩ := note_if_eq_ok h
  obtain ⟨_, w₂, he, h⟩ := bind_eq_ok.1 h
  obtain ⟨c, w₃, hc, h⟩ := bind_eq_ok.1 h
  obtain ⟨hpair, rfl⟩ := pure_eq_ok.1 h
  obtain ⟨rfl, rfl⟩ := Prod.mk.inj hpair
  obtain ⟨hcanonical, rfl⟩ := Check.canonicalize_eq_ok.1 hc
  exact ⟨discovered, v, hd, hq.disk.trans (Discovery.run_eq_ok hd).1.disk, he, hcanonical⟩

theorem opening_eq_ok {begun : World}
    (h : opening dirs root options w = .ok (discovery, canonical) begun) :
    (∃ discovered, Discovery.run dirs options.templateExtension options.exclude w =
        .ok discovery discovered) ∧
      Disk.Adds w.disk begun.disk ∧ begun.disk.canonicalize root = .ok canonical := by
  obtain ⟨discovered, v, hd, hdisk, he, hcanonical⟩ := opening_steps h
  exact ⟨⟨discovered, hd⟩, hdisk ▸ (Check.ensureDirectory_adds he).1, hcanonical⟩

theorem opening_place {begun : World}
    (h : opening dirs root options w = .ok (discovery, canonical) begun) :
    ∃ rootPlace, canonical = ofNames rootPlace ∧ AllNames rootPlace ∧
      Disk.Adds w.disk begun.disk ∧ ∀ s ∈ discovery.files, Spelled s := by
  obtain ⟨⟨discovered, hd⟩, hadds, hcanonical⟩ := opening_eq_ok h
  obtain ⟨rootPlace, hresolve, rfl⟩ := Disk.canonicalize_eq_ok.1 hcanonical
  exact ⟨rootPlace, rfl, Disk.resolve_names hresolve, hadds, fun s hs => Discovery.spelled hd hs⟩

theorem opening_after (dirs : List Path) (root : Path) (options : Options) (w : World) :
    Disk.Adds w.disk ((opening dirs root options).diskAfter w) := by
  have hdiscovery := Discovery.run_leavesDisk dirs options.templateExtension options.exclude
  refine diskAfter_bind (P := Disk.Adds w.disk) ?_ fun discovery w₁ hd => ?_
  · rw [hdiscovery w]
    exact .refl _
  · refine diskAfter_note_if fun v hv => ?_
    rw [← hdiscovery.keepsDisk hd, ← hv]
    refine diskAfter_bind (P := Disk.Adds v.disk) (Check.ensureDirectory_after root v) fun _ v₁ he => ?_
    rw [LeavesDisk.bind (.canonicalize root) fun _ => .pure _]
    exact (Check.ensureDirectory_adds he).1

section Footprint

variable (dirs : List Path) (root : Path) (compiler : Compiler) (options : Options) (w : World)

/-- The check has discovered a template, the compiler has answered with code for it, and the code is
written to its artifact: below the root, and never to a template. -/
structure ArtifactWrite (discovery : Discovery) (canonical : Path) (a : Attempt) (place : Place)
    (body : ByteArray) : Prop where
  reached : ∃ begun, opening dirs root options w = .ok (discovery, canonical) begun ∧
    Reaches canonical discovery.files compiler options.targetExtension begun a
  source : a.source ∈ discovery.files
  answer : ∃ code, a.answer = .ok code ∧ body = Text.bytes code
  target : Artifact.path canonical a.source options.targetExtension = ofNames place
  below : canonical.Above (ofNames place)
  noTemplate : ofNames place ∉ discovery.files

def Touches (place : Place) (body : ByteArray) : Prop :=
  ∃ discovery canonical a, ArtifactWrite dirs root compiler options w discovery canonical a place body

/-- Each of the paths spells the place of a file, and the file is the same on both disks. -/
def SameFiles (paths : List Path) (d d' : Disk) : Prop :=
  ∀ p ∈ paths, ∃ place body, p = ofNames place ∧ d.get? place = some (.file body) ∧
    d'.get? place = some (.file body)

/-- What a check has done to the disk when it ends. -/
structure Footprint (d' : Disk) : Prop where
  grows : Disk.Grows w.disk d'
  changed : ∀ {place body}, d'.get? place = some (.file body) →
    w.disk.get? place ≠ some (.file body) → Touches dirs root compiler options w place body
  templates : ∀ {discovery discovered},
    Discovery.run dirs options.templateExtension options.exclude w = .ok discovery discovered →
    SameFiles discovery.files w.disk d'
  /-- Whenever the compiler is asked, the templates are still as they were. -/
  asked : ∀ {discovery canonical begun a},
    opening dirs root options w = .ok (discovery, canonical) begun →
    Reaches canonical discovery.files compiler options.targetExtension begun a →
    SameFiles discovery.files w.disk a.asked.disk

end Footprint

theorem sameFiles_of_changes {Written : Place → ByteArray → Prop} {d : Disk} {discovered : World}
    (hd : Discovery.run dirs options.templateExtension options.exclude w = .ok discovery discovered)
    (hchanges : Disk.Changes Written w.disk d)
    (hspared : ∀ place body, Written place body → ofNames place ∉ discovery.files) :
    SameFiles discovery.files w.disk d := by
  intro p hp
  obtain ⟨place, body, rfl, -, -, hbody⟩ := Discovery.file_place hd hp
  refine ⟨place, body, rfl, hbody, hchanges.kept hbody fun content hw => ?_⟩
  exact hspared place content hw hp

section Settings

variable (hlinks : w.disk.LinkFree) (hy : Bootstrap.isBareExtension options.targetExtension)
  (hxy : options.templateExtension ≠ options.targetExtension)

include hlinks hy hxy

theorem artifact_not_template {rootPlace : Place} {source : Path} {discovered : World}
    (hd : Discovery.run dirs options.templateExtension options.exclude w = .ok discovery discovered)
    (hp : AllNames rootPlace) (hs : Spelled source) :
    ofNames (artifactPlace rootPlace options.targetExtension source) ∉ discovery.files := by
  intro hm
  have htemplate := Discovery.shownExtension_of_mem hlinks hd hm
  rw [shownExtension_of_spelled hp hy hs] at htemplate
  exact hxy (Option.some.inj htemplate).symm

theorem artifactWrite_of_wrote {rootPlace place : Place} {body : ByteArray} {begun : World}
    (h : opening dirs root options w = .ok (discovery, ofNames rootPlace) begun)
    (hp : AllNames rootPlace)
    (hw : Wrote rootPlace discovery.files compiler options.targetExtension begun place body) :
    ∃ a, ArtifactWrite dirs root compiler options w discovery (ofNames rootPlace) a place body := by
  obtain ⟨a, code, hreaches, hcode, rfl, rfl⟩ := hw
  have ⟨⟨discovered, hd⟩, _⟩ := opening_eq_ok h
  have ⟨v, hcomes, _⟩ := hreaches
  have hs := Discovery.spelled hd hcomes.mem
  have htarget : Artifact.path (ofNames rootPlace) a.source options.targetExtension = _ :=
    path_of_spelled hp hs
  refine ⟨a, ⟨begun, h, hreaches⟩, hcomes.mem, ⟨code, hcode, rfl⟩, htarget, ?_,
    artifact_not_template hlinks hy hxy hd hp hs⟩
  refine ⟨(mirrored (Artifact.names a.source) options.targetExtension).map .normal, ?_, ?_⟩
  · simp [mirrored_ne_nil hs.names_ne_nil]
  · rw [← htarget, components_path hs.names_ne_nil hy]

theorem compilation_changes {begun : World} (hc : compiler.LeavesDisk)
    (h : opening dirs root options w = .ok (discovery, canonical) begun) :
    Disk.Changes (fun place body => ∃ a,
        ArtifactWrite dirs root compiler options w discovery canonical a place body) w.disk
      ((Compilation.run canonical discovery.files compiler options.targetExtension).diskAfter
        begun) := by
  obtain ⟨rootPlace, rfl, hp, hadds, hs⟩ := opening_place h
  have hrun := run_changes hc hp hy (hadds.grows.linkFree hlinks) hs
  exact (Disk.Changes.of_adds hadds).trans (hrun.mono (artifactWrite_of_wrote hlinks hy hxy h hp))

theorem asked_changes {begun : World} {a : Attempt} (hc : compiler.LeavesDisk)
    (h : opening dirs root options w = .ok (discovery, canonical) begun)
    (ha : Reaches canonical discovery.files compiler options.targetExtension begun a) :
    Disk.Changes (fun place body => ∃ a,
        ArtifactWrite dirs root compiler options w discovery canonical a place body) w.disk
      a.asked.disk := by
  obtain ⟨rootPlace, rfl, hp, hadds, hs⟩ := opening_place h
  obtain ⟨v, hcomes, hanswers⟩ := ha
  have hbefore := hcomes.changes hc hp hy (hadds.grows.linkFree hlinks) hs
  have hprepared : Disk.Adds v.disk a.asked.disk := (prepare_adds hanswers.prepared).1
  refine (Disk.Changes.of_adds hadds).trans (.trans ?_ (.of_adds hprepared))
  exact hbefore.mono (artifactWrite_of_wrote hlinks hy hxy h hp)

theorem run_changes_artifacts (hc : compiler.LeavesDisk) (hl : linter.LeavesDisk) :
    Disk.Changes (Touches dirs root compiler options w) w.disk
      ((run dirs root compiler linter options).diskAfter w) := by
  rw [run_eq_opening]
  refine diskAfter_bind (P := Disk.Changes _ w.disk) (.of_adds (opening_after dirs root options w)) ?_
  rintro ⟨discovery, canonical⟩ begun h
  have hcompiled : Disk.Changes (Touches dirs root compiler options w) w.disk _ :=
    (compilation_changes hlinks hy hxy hc h).mono fun hw => ⟨discovery, canonical, hw⟩
  refine diskAfter_bind (P := Disk.Changes _ w.disk) hcompiled fun outcome w₁ hrun => ?_
  -- what follows the compilation leaves the disk as it is
  rw [LeavesDisk.bind .note fun _ => .bind (Linting.run_leavesDisk hl canonical outcome.sourceMap)
    fun _ => .pure _, ← diskAfter_of_ok hrun]
  exact hcompiled

/-- However a check ends, the files that it created or changed are artifacts of templates that
compiled, and everything else is still there. -/
theorem check_touches_only_artifacts (hc : compiler.LeavesDisk) (hl : linter.LeavesDisk) :
    Footprint dirs root compiler options w
      ((run dirs root compiler linter options).diskAfter w) where
  grows := (run_changes_artifacts hlinks hy hxy hc hl).grows
  changed hnow hbefore :=
    ((run_changes_artifacts hlinks hy hxy hc hl).files hnow).resolve_left hbefore
  templates hd := by
    refine sameFiles_of_changes hd (run_changes_artifacts hlinks hy hxy hc hl) ?_
    rintro place body ⟨discovery', canonical, a, hw⟩
    obtain ⟨begun, hopening, -⟩ := hw.reached
    obtain ⟨⟨discovered, hd'⟩, -⟩ := opening_eq_ok hopening
    obtain ⟨rfl, -⟩ := EStateM.Result.ok.inj (hd.symm.trans hd')
    exact hw.noTemplate
  asked h ha := by
    obtain ⟨⟨discovered, hd⟩, -⟩ := opening_eq_ok h
    refine sameFiles_of_changes hd (asked_changes hlinks hy hxy hc h ha) ?_
    rintro place body ⟨a, hw⟩
    exact hw.noTemplate

end Settings

/-- The compiled root lies in the directory of the templates, and `b.latte` stops the compiler. -/
def overlapDisk : Disk where
  entries := [(["t"], .directory), (["t", "a.latte"], .file (Text.bytes "A")),
    (["t", "b.latte"], .file (Text.bytes "B")), (["t", "c.latte"], .file (Text.bytes "C"))]
  workdir := []
  workdir_names := allNames_nil

def overlapOptions : Options := ⟨"latte", "php", []⟩

def overlapCompiler : Compiler := Scripted.compiler [("b.latte", .fatal "latte" "no such program")]

def overlapLinter : Linter := Scripted.linter { extension := "php" }

def overlapWorld : World := { disk := overlapDisk }

theorem check_touches_only_artifacts_overlap :
    overlapDisk.LinkFree ∧
    ∃ w', run ["/t"] "/t/out" overlapCompiler overlapLinter overlapOptions overlapWorld =
        .error (.failed (.tool "latte" (.other "no such program"))) w' ∧
      (w'.disk.isFile "/t/out/t/a.php", w'.disk.isFile "/t/out/t/c.php") = (true, false) ∧
      Footprint ["/t"] "/t/out" overlapCompiler overlapOptions overlapWorld w'.disk := by
  have hlinks : overlapDisk.LinkFree := Disk.linkFree_of_entries (by decide)
  have hrun : failedWith? (fun w => (w.disk.isFile "/t/out/t/a.php", w.disk.isFile "/t/out/t/c.php"))
      (run ["/t"] "/t/out" overlapCompiler overlapLinter overlapOptions overlapWorld) =
      some (.tool "latte" (.other "no such program"), (true, false)) := by
    decide +kernel
  obtain ⟨w', hrun, hfiles⟩ := exists_of_failedWith hrun
  have hdisk : w'.disk = (run ["/t"] "/t/out" overlapCompiler overlapLinter overlapOptions).diskAfter
      overlapWorld := (diskAfter_of_halts ⟨w', hrun, rfl⟩).symm
  refine ⟨hlinks, w', hrun, hfiles, hdisk ▸ ?_⟩
  exact check_touches_only_artifacts hlinks (by decide) (by decide)
    (Scripted.compiler_leavesDisk _) (Scripted.linter_leavesDisk _)

end Pipeline

end TemplateCheck
