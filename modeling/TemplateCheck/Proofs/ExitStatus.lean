import Mathlib.Data.List.Nodup
import TemplateCheck.Command.Check
import TemplateCheck.Proofs.Account
import TemplateCheck.Proofs.Processes
import TemplateCheck.Proofs.Sharing

/-!
On a disk without links, and with an extension that nothing else is shown like, no two templates share
an artifact. So each artifact still holds the code of its template when the linter is run, and the
linter is run on all of them. The number of records is the number of processes that failed: status
zero says that there were none.
-/
namespace TemplateCheck

open CheckM Path Artifact

namespace Compilation

variable {rootPlace place : Place} {compiler : Compiler} {extension : Text} {w w' : World}
  {done done' : Compilation} {a : Attempt} {attempts : List Attempt}

theorem Turn.code_at_artifact (hc : compiler.KeepsDisk) (hp : AllNames rootPlace)
    (hx : Bootstrap.isBareExtension extension) (hl : w.disk.LinkFree)
    (t : Turn (ofNames rootPlace) compiler extension w done a done' w') (hs : Spelled a.source)
    {code : Text} (ha : a.answer = .ok code) :
    ∃ d, Disk.Adds w.disk d ∧
      w'.disk = d.put (artifactPlace rootPlace extension a.source) (.file (Text.bytes code)) := by
  obtain ⟨hn, hne⟩ := artifactPlace_names hp hx hs
  obtain ⟨d, hadds, hd⟩ := t.disk_of_code hc ha hl.ground hn hne (path_below_top hp hx hs)
  exact ⟨d, hadds, hd⟩

theorem Turn.code_stands (hc : compiler.KeepsDisk) (hp : AllNames rootPlace)
    (hx : Bootstrap.isBareExtension extension) (hl : w.disk.LinkFree)
    (t : Turn (ofNames rootPlace) compiler extension w done a done' w') (hs : Spelled a.source)
    {code : Text} (ha : a.answer = .ok code) :
    w'.disk.get? (artifactPlace rootPlace extension a.source) = some (.file (Text.bytes code)) := by
  obtain ⟨d, -, hd⟩ := t.code_at_artifact hc hp hx hl hs ha
  rw [hd, Disk.get?_put_self (artifactPlace_names hp hx hs).2]

theorem Turn.keeps_file (hc : compiler.KeepsDisk) (hp : AllNames rootPlace)
    (hx : Bootstrap.isBareExtension extension) (hl : w.disk.LinkFree)
    (t : Turn (ofNames rootPlace) compiler extension w done a done' w') (hs : Spelled a.source)
    (hother : a.succeeded → artifactPlace rootPlace extension a.source ≠ place) {body : ByteArray}
    (h : w.disk.get? place = some (.file body)) : w'.disk.get? place = some (.file body) := by
  cases ha : a.answer with
  | ok code =>
    obtain ⟨d, hadds, hd⟩ := t.code_at_artifact hc hp hx hl hs ha
    rw [hd, Disk.get?_put_of_ne (hother (Attempt.succeeded_iff.2 ⟨code, ha⟩)).symm]
    exact hadds.kept h
  | error error =>
    exact (t.adds_of_failed hc (Attempt.failed_iff.2 ⟨error, ha⟩)).kept h

theorem Course.keeps_file (hc : compiler.KeepsDisk) (hp : AllNames rootPlace)
    (hx : Bootstrap.isBareExtension extension) (hl : w.disk.LinkFree)
    (c : Course (ofNames rootPlace) compiler extension w done attempts done' w')
    (hs : ∀ a ∈ attempts, Spelled a.source)
    (hother : ∀ a ∈ attempts, a.succeeded → artifactPlace rootPlace extension a.source ≠ place)
    {body : ByteArray} (h : w.disk.get? place = some (.file body)) :
    w'.disk.get? place = some (.file body) := by
  induction c with
  | nil w done => exact h
  | cons t _ ih =>
    rw [List.forall_mem_cons] at hs hother
    exact ih ((t.grows hc).linkFree hl) hs.2 hother.2 (t.keeps_file hc hp hx hl hs.1 hother.1 h)

theorem Course.artifact_there (hc : compiler.KeepsDisk) (hp : AllNames rootPlace)
    (hx : Bootstrap.isBareExtension extension) (hl : w.disk.LinkFree)
    (c : Course (ofNames rootPlace) compiler extension w done attempts done' w')
    (hs : ∀ a ∈ attempts, Spelled a.source) (ha : a ∈ attempts) (hsucceeded : a.succeeded) :
    ∃ body, w'.disk.get? (artifactPlace rootPlace extension a.source) = some (.file body) := by
  induction c with
  | nil w done => simp at ha
  | @cons w w₁ w' done done₁ done' first rest t course ih =>
    rw [List.forall_mem_cons] at hs
    rcases List.mem_cons.1 ha with rfl | ha
    · obtain ⟨code, hcode⟩ := Attempt.succeeded_iff.1 hsucceeded
      exact (course.grows hc).file (t.code_stands hc hp hx hl hs.1 hcode)
    · exact ih ((t.grows hc).linkFree hl) hs.2 ha

theorem Course.contents (hc : compiler.KeepsDisk) (hp : AllNames rootPlace)
    (hx : Bootstrap.isBareExtension extension) (hl : w.disk.LinkFree)
    (c : Course (ofNames rootPlace) compiler extension w done attempts done' w')
    (hs : ∀ a ∈ attempts, Spelled a.source)
    (hdistinct : (attempts.map fun a => artifactPlace rootPlace extension a.source).Nodup)
    (ha : a ∈ attempts) {code : Text} (hcode : a.answer = .ok code) :
    w'.disk.get? (artifactPlace rootPlace extension a.source) = some (.file (Text.bytes code)) := by
  induction c with
  | nil w done => simp at ha
  | @cons w w₁ w' done done₁ done' first rest t course ih =>
    rw [List.forall_mem_cons] at hs
    rw [List.map_cons, List.nodup_cons] at hdistinct
    have hl₁ := (t.grows hc).linkFree hl
    rcases List.mem_cons.1 ha with rfl | ha
    · refine course.keeps_file hc hp hx hl₁ hs.2 (fun b hb _ he => hdistinct.1 ?_)
        (t.code_stands hc hp hx hl hs.1 hcode)
      exact List.mem_map.2 ⟨b, hb, he⟩
    · exact ih hl₁ hs.2 hdistinct.2 ha

end Compilation

namespace Bootstrap

variable {c : BootstrapConfig} {b : Bootstrap} {origin : Path} {w w' : World}

theorem ofConfig_eq_ok (h : ofConfig c = .ok b) : b.config = c ∧ shallowFlaw c = none := by
  unfold ofConfig at h
  split at h
  · simp at h
  · next hflaw =>
    split at h
    · simp at h
    · split at h
      · simp at h
      · split at h
        · simp at h
        · obtain rfl := Except.ok.inj h
          exact ⟨rfl, hflaw⟩

theorem extensions_of_shallowFlaw (h : shallowFlaw c = none) :
    isBareExtension c.compiler.templateExtension ∧ isBareExtension c.compiler.targetExtension ∧
      c.compiler.templateExtension ≠ c.compiler.targetExtension := by
  unfold shallowFlaw at h
  split_ifs at h with _ _ htemplate htarget hsame
  exact ⟨by simpa using htemplate, by simpa using htarget, hsame⟩

theorem ofConfigAt_eq_ok (h : ofConfigAt origin c = .ok b) :
    isBareExtension b.templateExtension ∧ isBareExtension b.targetExtension := by
  unfold ofConfigAt at h
  split at h
  · next hb =>
    obtain rfl := Except.ok.inj h
    obtain ⟨rfl, hflaw⟩ := ofConfig_eq_ok hb
    obtain ⟨htemplate, htarget, -⟩ := extensions_of_shallowFlaw hflaw
    exact ⟨htemplate, htarget⟩
  · simp at h

theorem config_of_resolve_none (h : resolve none w = .ok b w') : b.config = {} := by
  obtain ⟨_, w₁, hn, h⟩ := bind_eq_ok.1 h
  obtain ⟨hb, -⟩ := ofExcept_eq_ok.1 h
  unfold ofConfigAt at hb
  split at hb
  · next hconfig =>
    obtain rfl := Except.ok.inj hb
    exact (ofConfig_eq_ok hconfig).1
  · simp at hb

/-- The extensions of an accepted bootstrap are bare. -/
theorem resolve_eq_ok {given : Option Path} (h : resolve given w = .ok b w') :
    Quiet w w' ∧ isBareExtension b.templateExtension ∧ isBareExtension b.targetExtension := by
  cases given with
  | none =>
    obtain ⟨_, w₁, hn, h⟩ := bind_eq_ok.1 h
    obtain ⟨hb, rfl⟩ := ofExcept_eq_ok.1 h
    exact ⟨note_eq_ok hn, ofConfigAt_eq_ok hb⟩
  | some path =>
    rw [resolve, load, readDisk_bind] at h
    cases ht : w.disk.readText path with
    | error fault => simp only [ht] at h; exact absurd h fail_ne_ok
    | ok text =>
      simp only [ht] at h
      cases hconfig : BootstrapConfig.parse? text with
      | none => simp only [hconfig] at h; exact absurd h fail_ne_ok
      | some config =>
        simp only [hconfig] at h
        obtain ⟨_, w₁, hn, h⟩ := bind_eq_ok.1 h
        obtain ⟨hb, rfl⟩ := ofExcept_eq_ok.1 h
        exact ⟨note_eq_ok hn, ofConfigAt_eq_ok hb⟩

end Bootstrap

namespace Pipeline

open Compilation

variable {dirs : List Path} {root : Path} {options : Options} {w w' : World} {programs : Programs}
  {compile lint : ToolCommand} {compilePattern lintPattern : FailurePattern} {extension : Text}

/-- A check starts one process for each template and then one for each file that is linted, and it has
one record for each of them that failed. -/
theorem Stages.processes_eq
    (s : Stages dirs root (Backend.compiler programs compile compilePattern)
      (Backend.linter programs lint lintPattern extension) options w w') :
    ∃ compiled linted : List Process,
      w'.processes = w.processes ++ (compiled ++ linted) ∧
      programs.Ran w.processes (compiled ++ linted) ∧
      List.Forall₂ (Attempt.RunBy compile) s.attempts compiled ∧
      List.Forall₂ (fun file run => ∃ exit, run = lint.process file w'.disk exit) s.files linted ∧
      s.attempts.countP Attempt.failed + s.findings.length =
        (compiled ++ linted).countP fun run => !run.succeeded := by
  obtain ⟨compiled, hcompiled, hcompiling, hattempts⟩ := s.course.processes
  obtain ⟨hdisk, linted, hlinted, hlinting, hfiles, hfindings⟩ := Backend.lintAll_eq_ok s.lints
  have hlisted : s.listed = s.listing := by
    have := s.lists
    simp only [Backend.linter, readDisk_bind] at this
    exact (ofExcept_eq_ok.1 this).2
  have hbegun : s.begun.processes = w.processes := by
    rw [s.processes, (Discovery.run_eq_ok s.discovers).1.processes]
  rw [hbegun] at hcompiled hcompiling
  rw [s.quiet_linting.processes, hlisted, s.quiet_listing.processes, hcompiled] at hlinted hlinting
  refine ⟨compiled, linted, ?_, Programs.ran_append.2 ⟨hcompiling, hlinting⟩, hattempts, ?_, ?_⟩
  · rw [s.quiet_end.processes, hlinted]
    exact Array.toList_inj.1 (by simp)
  · rwa [s.quiet_end.disk, hdisk]
  · rw [countP_failed hattempts, hfindings, List.countP_append]

end Pipeline

theorem Discovery.nodup_artifactPlaces {dirs : List Path} {templateExtension targetExtension : Text}
    {exclude : List Text} {w w₁ : World} {discovery : Discovery}
    (hx : Text.replacement ∉ templateExtension) (hy : Bootstrap.isBareExtension targetExtension)
    (hl : w.disk.LinkFree) (h : run dirs templateExtension exclude w = .ok discovery w₁)
    (place : Place) :
    (discovery.files.map (artifactPlace place targetExtension)).Nodup := by
  refine List.Nodup.map_on (fun a ha b hb hab => ?_) (nodup_files h)
  refine twinless hx hl h a ha b hb ?_
  rw [artifactPlace, artifactPlace, List.append_cancel_left_eq,
    mirrored_eq_iff (spelled h ha).names_ne_nil (spelled h hb).names_ne_nil hy] at hab
  exact hab

namespace Pipeline

open Compilation

variable {dirs : List Path} {root : Path} {options : Options} {w w' : World} {compiler : Compiler}
  {linter : Linter} {source : Path}

namespace Stages

variable (s : Stages dirs root compiler linter options w w')

theorem mem_sources : source ∈ s.discovery.files ↔ ∃ a ∈ s.attempts, a.source = source := by
  rw [← s.sources, List.mem_map]

theorem spelled (h : source ∈ s.discovery.files) : Spelled source := Discovery.spelled s.discovers h

theorem grows_begun : Disk.Grows w.disk s.begun.disk := by
  have := s.grows
  rwa [(Discovery.run_eq_ok s.discovers).1.disk] at this

theorem linkFree (s : Stages dirs root compiler linter options w w') (hc : compiler.KeepsDisk)
    (hl : linter.KeepsDisk) (h : w.disk.LinkFree) : w'.disk.LinkFree := by
  rw [s.disk_eq hl]
  exact (s.grows_begun.trans (s.course.grows hc)).linkFree h

theorem canonical_place : ∃ place, AllNames place ∧ s.canonical = ofNames place := by
  obtain ⟨place, hr, hc⟩ := Disk.canonicalize_eq_ok.1 s.resolves
  exact ⟨place, Disk.resolve_names hr, hc⟩

theorem nodup_artifacts (h : w.disk.LinkFree) (hx : Text.replacement ∉ options.templateExtension)
    (hy : Bootstrap.isBareExtension options.targetExtension) (place : Place) :
    (s.attempts.map fun a => artifactPlace place options.targetExtension a.source).Nodup := by
  have hmap : (s.attempts.map fun a => artifactPlace place options.targetExtension a.source) =
      s.discovery.files.map (artifactPlace place options.targetExtension) := by
    simp [← s.sources]
  rw [hmap]
  exact Discovery.nodup_artifactPlaces hx hy h s.discovers place

section Artifact

variable (hc : compiler.KeepsDisk) (hl : linter.KeepsDisk) (h : w.disk.LinkFree)
  (hy : Bootstrap.isBareExtension options.targetExtension) {a : Attempt} (ha : a ∈ s.attempts)
  {place : Place} (hp : AllNames place) (hroot : s.canonical = ofNames place)

include hc hl h hy ha hp hroot

theorem artifact_file (hsucceeded : a.succeeded) :
    w'.disk.resolve (Artifact.path s.canonical a.source options.targetExtension) =
        .ok (artifactPlace place options.targetExtension a.source) ∧
      ∃ body, w'.disk.get? (artifactPlace place options.targetExtension a.source) =
        some (.file body) := by
  have hspelled : ∀ a ∈ s.attempts, Spelled a.source :=
    fun a ha => s.spelled (s.mem_sources.2 ⟨a, ha, rfl⟩)
  have hcourse := s.course
  rw [hroot] at hcourse
  obtain ⟨artifact, hartifact⟩ := hcourse.canonicalize_of_succeeded hc ha hsucceeded
  obtain ⟨found, hr, -⟩ := Disk.canonicalize_eq_ok.1 hartifact
  have hfile := hcourse.artifact_there hc hp hy (s.grows_begun.linkFree h) hspelled ha hsucceeded
  rw [← s.disk_eq hl] at hr hfile
  rw [path_of_spelled hp (hspelled a ha)] at hr
  rw [hroot, path_of_spelled hp (hspelled a ha)]
  have hn := (artifactPlace_names hp hy (hspelled a ha)).1
  rw [(s.linkFree hc hl h).place_of_resolve hn hr] at hr
  exact ⟨hr, hfile⟩

theorem artifact_code (hx : Text.replacement ∉ options.templateExtension) {code : Text}
    (hcode : a.answer = .ok code) :
    w'.disk.get? (artifactPlace place options.targetExtension a.source) =
      some (.file (Text.bytes code)) := by
  have hcourse := s.course
  rw [hroot] at hcourse
  rw [s.disk_eq hl]
  exact hcourse.contents hc hp hy (s.grows_begun.linkFree h)
    (fun a ha => s.spelled (s.mem_sources.2 ⟨a, ha, rfl⟩)) (s.nodup_artifacts h hx hy place) ha hcode

end Artifact

end Stages

end Pipeline

/-- A file with the extension at or below a root. -/
def CompiledFile (d : Disk) (root : Path) (extension : Text) (p : Path) : Prop :=
  ∃ names, AllNames names ∧ p = root.joinAll names ∧ d.isFile p ∧ p.shownExtension = some extension

namespace Pipeline

open Compilation

variable {dirs : List Path} {root : Path} {options : Options} {w w' : World} {compiler : Compiler}
  {programs : Programs} {lint : ToolCommand} {pattern : FailurePattern} {p : Path}

theorem Stages.artifact_holds {linter : Linter} (s : Stages dirs root compiler linter options w w')
    (hc : compiler.KeepsDisk) (hl : linter.KeepsDisk) (h : w.disk.LinkFree)
    (hy : Bootstrap.isBareExtension options.targetExtension) {a : Attempt} (ha : a ∈ s.attempts)
    {code : Text} (hcode : a.answer = .ok code) :
    CompiledFile w'.disk s.canonical options.targetExtension
        (Artifact.path s.canonical a.source options.targetExtension) ∧
      (Text.replacement ∉ options.templateExtension →
        w'.disk.readBytes (Artifact.path s.canonical a.source options.targetExtension) =
          .ok (Text.bytes code)) := by
  obtain ⟨place, hp, hroot⟩ := s.canonical_place
  obtain ⟨hr, body, hbody⟩ := s.artifact_file hc hl h hy ha hp hroot
    (Attempt.succeeded_iff.2 ⟨code, hcode⟩)
  have hs := s.spelled (s.mem_sources.2 ⟨a, ha, rfl⟩)
  have hn := (artifactPlace_names hp hy hs).1
  refine ⟨⟨Artifact.mirrored (Artifact.names a.source) options.targetExtension, ?_, ?_, ?_, ?_⟩,
    fun hx => ?_⟩
  · exact (allNames_append.1 hn).2
  · rw [hroot, path_of_spelled hp hs, joinAll_ofNames hp (allNames_append.1 hn).2, artifactPlace]
  · exact Disk.isFile_iff.2 ⟨_, _, hr, hbody⟩
  · rw [hroot, path_of_spelled hp hs, shownExtension_of_spelled hp hy hs]
  · simp [Disk.readBytes, hr, s.artifact_code hc hl h hy ha hp hroot hx hcode]

theorem Stages.selects
    (s : Stages dirs root compiler (Backend.linter programs lint pattern options.targetExtension)
      options w w') :
    Selection.files ⟨[s.canonical], options.targetExtension, []⟩ w'.disk = .ok s.files := by
  have hlists := s.lists
  simp only [Backend.linter, readDisk_bind] at hlists
  rw [s.disk_eq Backend.linter_keepsDisk, ← s.quiet_listing.disk]
  exact (ofExcept_eq_ok.1 hlists).1

theorem Stages.mem_files
    (s : Stages dirs root compiler (Backend.linter programs lint pattern options.targetExtension)
      options w w') (h : w'.disk.LinkFree)
    (hp : CompiledFile w'.disk s.canonical options.targetExtension p) : p ∈ s.files := by
  obtain ⟨names, hn, rfl, hfile, hext⟩ := hp
  obtain ⟨place, hplace, hroot⟩ := s.canonical_place
  have hselects := s.selects
  rw [hroot] at hselects hfile hext ⊢
  rw [Selection.mem_files hselects]
  refine .of_below h hplace hn (by simp) (Selection.resolve_of_files h hplace hselects (by simp)) ?_
  exact Selection.admits_iff.2 ⟨hfile, hext, by simp⟩

end Pipeline

theorem exitCode_eq_zero {n : Nat} : exitCode n = 0 ↔ n = 0 := by
  simp [exitCode, maxExitCode]

namespace Pipeline

open Compilation

variable {dirs : List Path} {root : Path} {options : Options} {w w' : World} {programs : Programs}
  {compile lint : ToolCommand} {compilePattern lintPattern : FailurePattern} {n : Nat}

/-- What the processes of a check have to do with its number of records. Each template is compiled
once, and each compiled file is linted once, on the disk as the check leaves it. Status zero says that
each template was compiled, that its artifact holds what the compiler printed if only one extension is
shown like that of the templates, and that the linter did not complain about it; any other status says
that a process has failed. A process stands for its file as far as the file has a name that is a
text. -/
structure Evidence (programs : Programs) (dirs : List Path) (options : Options)
    (compile lint : ToolCommand) (root : Path) (n : Nat) (w w' : World)
    (compiled linted : List Process) : Prop where
  started : w'.processes.toList = w.processes.toList ++ (compiled ++ linted)
  ran : programs.Ran w.processes (compiled ++ linted)
  handed : compile.Handed compiled ∧ lint.Handed linted
  once : (compiled.map Process.file).Nodup ∧ (linted.map Process.file).Nodup
  templates : ∀ p, Discovery.IsTemplate w.disk dirs options.templateExtension options.exclude p →
    ∃ disk exit, compile.process p disk exit ∈ compiled
  files : ∀ p, CompiledFile w'.disk root options.targetExtension p →
    ∃ exit, lint.process p w'.disk exit ∈ linted
  passed : exitCode n = 0 →
    ∀ p, Discovery.IsTemplate w.disk dirs options.templateExtension options.exclude p →
      ∃ disk exit verdict, compile.process p disk exit ∈ compiled ∧ exit.status = .exited 0 ∧
        (Text.replacement ∉ options.templateExtension →
          w'.disk.readBytes (Artifact.path root p options.targetExtension) =
            .ok (Text.bytes (Text.ofBytesLossy exit.stdout))) ∧
        lint.process (Artifact.path root p options.targetExtension) w'.disk verdict ∈ linted ∧
        verdict.status = .exited 0
  failed : 0 < exitCode n ↔ ∃ run ∈ compiled ++ linted, run.succeeded = false

theorem Evidence.of_quiet {w₁ w₂ : World} {compiled linted : List Process} (h₁ : Quiet w w₁)
    (h₂ : Quiet w₂ w')
    (e : Evidence programs dirs options compile lint root n w₁ w₂ compiled linted) :
    Evidence programs dirs options compile lint root n w w' compiled linted := by
  obtain ⟨started, ran, handed, once, templates, files, passed, failed⟩ := e
  rw [h₁.disk] at templates passed
  rw [← h₂.disk] at files passed
  rw [← h₂.processes, h₁.processes] at started
  rw [h₁.processes] at ran
  exact ⟨started, ran, handed, once, templates, files, passed, failed⟩

variable (s : Stages dirs root (Backend.compiler programs compile compilePattern)
  (Backend.linter programs lint lintPattern options.targetExtension) options w w')

theorem Stages.evidence (hlinks : w.disk.LinkFree)
    (hy : Bootstrap.isBareExtension options.targetExtension)
    (hn : n = s.attempts.countP Attempt.failed + s.findings.length) :
    ∃ compiled linted,
      Evidence programs dirs options compile lint s.canonical n w w' compiled linted := by
  obtain ⟨compiled, linted, hstarted, hran, hcompiled, hlinted, hcount⟩ := s.processes_eq
  have hlinks' := s.linkFree Backend.compiler_keepsDisk Backend.linter_keepsDisk hlinks
  have hattempt : ∀ {p},
      Discovery.IsTemplate w.disk dirs options.templateExtension options.exclude p →
      ∃ a ∈ s.attempts, a.source = p := fun hp =>
    s.mem_sources.1 (Discovery.mem_files_of_isTemplate hlinks s.discovers hp)
  have hfiles : ∀ {p}, CompiledFile w'.disk s.canonical options.targetExtension p →
      ∃ exit, lint.process p w'.disk exit ∈ linted := by
    intro p hp
    obtain ⟨run, hrun, exit, rfl⟩ := exists_of_forall₂ hlinted (s.mem_files hlinks' hp)
    exact ⟨exit, hrun⟩
  have hfailed : 0 < n ↔ ∃ run ∈ compiled ++ linted, run.succeeded = false := by
    rw [hn, hcount, List.countP_pos_iff]
    simp
  refine ⟨compiled, linted, by simp [hstarted], hran, ⟨?_, ?_⟩, ⟨?_, ?_⟩, fun p hp => ?_,
    fun p hp => hfiles hp, fun hzero p hp => ?_, ?_⟩
  · refine ToolCommand.handed_of_process fun run hrun => ?_
    obtain ⟨a, -, exit, rfl, -⟩ := exists_of_forall₂ hcompiled.flip hrun
    exact ⟨_, _, exit, rfl⟩
  · refine ToolCommand.handed_of_process fun run hrun => ?_
    obtain ⟨file, -, exit, rfl⟩ := exists_of_forall₂ hlinted.flip hrun
    exact ⟨_, _, exit, rfl⟩
  · rw [map_eq_of_forall₂ hcompiled (f := Attempt.source) (by rintro a run ⟨exit, rfl, -⟩; rfl),
      s.sources]
    exact Discovery.nodup_files s.discovers
  · rw [map_eq_of_forall₂ hlinted (f := id) (by rintro file run ⟨exit, rfl⟩; rfl), List.map_id]
    exact Selection.nodup_files s.selects
  · obtain ⟨a, ha, rfl⟩ := hattempt hp
    obtain ⟨run, hrun, exit, rfl, -⟩ := exists_of_forall₂ hcompiled ha
    exact ⟨_, exit, hrun⟩
  · have hall : ∀ run ∈ compiled ++ linted, run.succeeded := by
      intro run hrun
      by_contra hnot
      have := hfailed.2 ⟨run, hrun, by simpa using hnot⟩
      rw [exitCode_eq_zero.1 hzero] at this
      exact absurd this (Nat.lt_irrefl 0)
    obtain ⟨a, ha, rfl⟩ := hattempt hp
    obtain ⟨run, hrun, exit, rfl, hanswer⟩ := exists_of_forall₂ hcompiled ha
    have hexit : exit.status.isSuccess := hall _ (List.mem_append_left _ hrun)
    have hcode : a.answer = .ok (Text.ofBytesLossy exit.stdout) := by
      rcases hanswer with ⟨-, hcode⟩ | ⟨hbad, -⟩
      · exact hcode
      · simp [hexit] at hbad
    obtain ⟨hfile, hbody⟩ := s.artifact_holds Backend.compiler_keepsDisk Backend.linter_keepsDisk
      hlinks hy ha hcode
    obtain ⟨verdict, hverdict⟩ := hfiles hfile
    have hclean : verdict.status.isSuccess := hall _ (List.mem_append_right _ hverdict)
    exact ⟨_, exit, verdict, hrun, by simpa [Status.isSuccess] using hexit, hbody, hverdict,
      by simpa [Status.isSuccess] using hclean⟩
  · rw [← hfailed, Nat.pos_iff_ne_zero, Nat.pos_iff_ne_zero, ne_eq, exitCode_eq_zero]

end Pipeline

namespace Command

open Compilation

variable {programs : Programs} {r : CheckRequest} {n : Nat} {w w' : World}

theorem deliver_eq_ok {pieces : List Text} {u : Unit} (h : deliver pieces w = .ok u w') :
    Quiet w w' := by
  rw [deliver, get_bind] at h
  cases hd : w.output.deliver pieces with
  | mk result output =>
    simp only [hd] at h
    obtain ⟨_, w₂, hm, h⟩ := bind_eq_ok.1 h
    obtain rfl := modify_eq_ok.1 hm
    cases result with
    | error cause => exact absurd h fail_ne_ok
    | ok =>
      obtain ⟨-, rfl⟩ := pure_eq_ok.1 h
      exact ⟨rfl, rfl⟩

/-- A check reads its settings, runs the pipeline and answers with the number of records. -/
theorem check_eq_ok (h : check programs r w = .ok n w') :
    ∃ bootstrap w₁ report w₂, Bootstrap.resolve r.bootstrap w = .ok bootstrap w₁ ∧
      Pipeline.run r.dirs r.compiledDir (compilerOf programs bootstrap) (linterOf programs bootstrap)
        (optionsOf bootstrap) w₁ = .ok report w₂ ∧ n = report.count ∧ Quiet w₂ w' := by
  unfold check at h
  by_cases hd : r.dirs.isEmpty
  · rw [if_pos hd] at h
    obtain ⟨_, _, hf, -⟩ := bind_eq_ok.1 h
    exact absurd hf fail_ne_ok
  · rw [if_neg hd] at h
    obtain ⟨bootstrap, w₁, hb, h⟩ := bind_eq_ok.1 h
    obtain ⟨report, w₂, hr, h⟩ := bind_eq_ok.1 h
    obtain ⟨_, w₃, hn, h⟩ := bind_eq_ok.1 h
    obtain ⟨w₄, hbody, hw⟩ := within_eq_ok.1 h
    obtain ⟨_, w₅, hpieces, hbody⟩ := bind_eq_ok.1 hbody
    obtain ⟨-, rfl⟩ := ofExcept_eq_ok.1 hpieces
    obtain ⟨_, w₆, hdeliver, hbody⟩ := bind_eq_ok.1 hbody
    obtain ⟨rfl, rfl⟩ := pure_eq_ok.1 hbody
    have hq := deliver_eq_ok (mapError_eq_ok.1 hdeliver)
    have hq₃ := note_eq_ok hn
    subst hw
    exact ⟨bootstrap, w₁, report, w₂, mapError_eq_ok.1 hb, mapError_eq_ok.1 hr, rfl,
      hq.disk.trans hq₃.disk, hq.processes.trans hq₃.processes⟩

def compileCommand (b : Bootstrap) : ToolCommand := ⟨b.config.compiler.program, b.config.compiler.args⟩

def lintCommand (b : Bootstrap) : ToolCommand := ⟨b.config.linter.program, b.config.linter.args⟩

/-- On a disk without links the exit status of a check tells what became of every template and of
every compiled file. -/
theorem exit_status_evidence (hlinks : w.disk.LinkFree) (h : check programs r w = .ok n w') :
    ∃ bootstrap w₁ root compiled linted, Bootstrap.resolve r.bootstrap w = .ok bootstrap w₁ ∧
      w'.disk.canonicalize r.compiledDir = .ok root ∧
      Pipeline.Evidence programs r.dirs (optionsOf bootstrap) (compileCommand bootstrap)
        (lintCommand bootstrap) root n w w' compiled linted := by
  obtain ⟨b, w₁, report, w₂, hb, hrun, rfl, hq⟩ := check_eq_ok h
  obtain ⟨hq₁, -, hy⟩ := Bootstrap.resolve_eq_ok hb
  have hrun : Pipeline.run r.dirs r.compiledDir
      (Backend.compiler programs (compileCommand b) b.compilerPattern)
      (Backend.linter programs (lintCommand b) b.linterPattern (optionsOf b).targetExtension)
      (optionsOf b) w₁ = .ok report w₂ := hrun
  obtain ⟨s, compileRecords, lintRecords, hparts, hfailures, hfindings⟩ :=
    Pipeline.stages_of_run hrun
  obtain ⟨compiled, linted, e⟩ := s.evidence (hq₁.disk ▸ hlinks) hy
    (Pipeline.count_of_parts hparts hfailures hfindings)
  refine ⟨b, w₁, s.canonical, compiled, linted, hb, ?_, e.of_quiet hq₁ hq⟩
  rw [hq.disk, s.disk_eq Backend.linter_keepsDisk]
  exact (s.course.grows Backend.compiler_keepsDisk).canonicalize_eq s.resolves

/-- Two templates, one of them in a directory of its own, and code that an earlier check has left. -/
def cleanDisk : Disk where
  entries := [(["t"], .directory), (["t", "a.latte"], .file (Text.bytes "A")),
    (["t", "sub"], .directory), (["t", "sub", "b.latte"], .file (Text.bytes "B")),
    (["out"], .directory), (["out", "old.php"], .file (Text.bytes "O"))]
  workdir := []
  workdir_names := allNames_nil

def cleanPrograms : Programs := ⟨fun _ _ _ _ => .ok ⟨.exited 0, [67], []⟩⟩

def cleanRequest : CheckRequest := ⟨["/t"], none, "/out", .json, .normal, ⟨false⟩⟩

theorem exit_status_evidence_clean : cleanDisk.LinkFree ∧
    ∃ n w', check cleanPrograms cleanRequest { disk := cleanDisk } = .ok n w' ∧ exitCode n = 0 ∧
      w'.processes.size = 5 ∧
      ∃ bootstrap w₁ root compiled linted,
        Bootstrap.resolve cleanRequest.bootstrap { disk := cleanDisk } = .ok bootstrap w₁ ∧
        w'.disk.canonicalize cleanRequest.compiledDir = .ok root ∧
        Pipeline.Evidence cleanPrograms cleanRequest.dirs (optionsOf bootstrap)
          (compileCommand bootstrap) (lintCommand bootstrap) root n { disk := cleanDisk } w' compiled linted := by
  have hlinks : cleanDisk.LinkFree := Disk.linkFree_of_entries (by decide)
  have hrun : outcome? (fun n w' => (exitCode n, w'.processes.size))
      (check cleanPrograms cleanRequest { disk := cleanDisk }) = some (0, 5) := by
    decide +kernel
  obtain ⟨n, w', h, hrun⟩ := exists_of_outcome hrun
  obtain ⟨hzero, hsize⟩ := Prod.mk.inj hrun
  exact ⟨hlinks, n, w', h, hzero, hsize, exit_status_evidence hlinks h⟩

/-- A template whose name is no text, and beside it the one whose name is shown alike. -/
def twinDisk : Disk where
  entries := [(["t"], .directory), (["t", "\xff.latte"], .file (Text.bytes "bad")),
    (["t", "\xef\xbf\xbd.latte"], .file (Text.bytes "good"))]
  workdir := []
  workdir_names := allNames_nil

/-- A compiler that fails on bad templates, and a linter that never does. -/
def twinPrograms : Programs where
  start _ disk _ args :=
    let bad := args.any fun t => (disk.readText (.ofText t)).toOption == some "bad".toList
    .ok ⟨.exited (if bad then 1 else 0), [67], []⟩

def twinRequest : CheckRequest := ⟨["/t"], none, "/out", .terminal, .normal, ⟨false⟩⟩

def misnamed : Path := "/t/\xff.latte"

theorem isTemplate_misnamed :
    Discovery.IsTemplate twinDisk twinRequest.dirs "latte" [] misnamed := by
  refine ⟨"/t", by simp [twinRequest], "/t", by decide, ["\xff.latte"], by decide, by decide,
    by decide, by decide, ?_⟩
  rintro ⟨pattern, hpattern, -⟩
  simp at hpattern

/-- Both processes of the compiler are on the other template, and status zero says nothing about the
one whose name is no text. -/
theorem misnamed_template_passes : twinDisk.LinkFree ∧ twinDisk.readText misnamed = .ok "bad" ∧
    ∃ bootstrap w₁ n w', Bootstrap.resolve twinRequest.bootstrap { disk := twinDisk } =
        .ok bootstrap w₁ ∧
      Discovery.IsTemplate twinDisk twinRequest.dirs (optionsOf bootstrap).templateExtension
        (optionsOf bootstrap).exclude misnamed ∧
      check twinPrograms twinRequest { disk := twinDisk } = .ok n w' ∧ exitCode n = 0 ∧
      (w'.processes.toList.take 2).map Process.args =
        [["/t/\ufffd.latte".toList], ["/t/\ufffd.latte".toList]] ∧
      ∀ run ∈ w'.processes, ¬(compileCommand bootstrap).RunOn misnamed run := by
  have hrun : outcome? (fun n w' =>
        (exitCode n, (w'.processes.toList.take 2).map Process.args))
      (check twinPrograms twinRequest { disk := twinDisk }) =
        some (0, [["/t/\ufffd.latte".toList], ["/t/\ufffd.latte".toList]]) := by
    decide +kernel
  obtain ⟨n, w', h, hrun⟩ := exists_of_outcome hrun
  obtain ⟨hzero, hargs⟩ := Prod.mk.inj hrun
  obtain ⟨b, w₁, -, -, hb, -⟩ := check_eq_ok h
  refine ⟨Disk.linkFree_of_entries (by decide), by decide +kernel, b, w₁, n, w', hb, ?_, h, hzero,
    hargs, ?_⟩
  · rw [optionsOf, Bootstrap.templateExtension, Bootstrap.exclude, Bootstrap.config_of_resolve_none hb]
    exact isTemplate_misnamed
  · rintro run - ⟨t, ht, -⟩
    have htext : misnamed.isText := Path.isText_iff.2 ⟨t, ht⟩
    exact absurd htext (by decide +kernel)

end Command

end TemplateCheck
