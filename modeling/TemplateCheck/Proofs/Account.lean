import TemplateCheck.Pipeline
import TemplateCheck.Proofs.Trace

/-!
A check that succeeds has gone through its stages. Its report holds one record for each template that
did not compile and one for each finding, in that order, and a finding is traced back to the last
template whose artifact it was made in.
-/
namespace TemplateCheck

theorem find?_reverse_eq_some_iff {α : Type} {p : α → Bool} {l : List α} {a : α} :
    l.reverse.find? p = some a ↔
      p a ∧ ∃ earlier later, l = earlier ++ a :: later ∧ ∀ b ∈ later, ¬p b := by
  rw [List.find?_eq_some_iff_append]
  refine and_congr_right fun _ => ⟨?_, ?_⟩
  · rintro ⟨before, after, hsplit, hbefore⟩
    refine ⟨after.reverse, before.reverse, ?_, by simpa using hbefore⟩
    simpa using congrArg List.reverse hsplit
  · rintro ⟨earlier, later, rfl, hlater⟩
    exact ⟨later.reverse, earlier.reverse, by simp, by simpa using hlater⟩

namespace SourceMap

variable {m : SourceMap} {compiled source key : Path}

theorem get?_insert : (m.insert compiled source).get? key =
    if compiled.same key then some source else m.get? key := by
  have hfilter : compiled.same key = false →
      (m.entries.filter fun entry => !entry.1.same compiled).find? (fun entry => entry.1.same key) =
        m.entries.find? fun entry => entry.1.same key := by
    intro h
    rw [List.find?_filter]
    congr 1
    funext entry
    by_cases he : entry.1.same key
    · have : entry.1.same compiled = false := by
        simp only [Path.same, beq_iff_eq, beq_eq_false_iff_ne, ne_eq] at h he ⊢
        exact fun hc => h (hc.symm.trans he)
      simp [he, this]
    · simp [he]
  by_cases h : compiled.same key
  · simp [get?, insert, h]
  · simp [get?, insert, h, hfilter (by simpa using h)]

theorem get?_foldl_insert (entries : List (Path × Path)) (m : SourceMap) (key : Path) :
    (entries.foldl (fun m entry => m.insert entry.1 entry.2) m).get? key =
      ((entries.reverse.find? fun entry => entry.1.same key).map (·.2)).or (m.get? key) := by
  induction entries generalizing m with
  | nil => simp
  | cons entry rest ih =>
    rw [List.foldl_cons, ih, get?_insert, List.reverse_cons, List.find?_append]
    cases rest.reverse.find? fun entry => entry.1.same key with
    | some found => simp
    | none => by_cases h : entry.1.same key <;> simp [h]

end SourceMap

namespace Linting

open CheckM

variable {m : SourceMap} {w w' : World}

theorem recordFinding_eq_ok {finding : Finding} {r : Record}
    (h : recordFinding m finding w = .ok r w') :
    Quiet w w' ∧ ∃ content, w.disk.readText finding.file = .ok content ∧
      r = recordOf finding (m.resolve w.disk finding.file) content := by
  obtain ⟨w₁, h, hw⟩ := within_eq_ok.1 h
  rw [readDisk_bind] at h
  obtain ⟨w₂, hq, h⟩ := note_if_eq_ok h
  obtain ⟨content, w₃, hr, h⟩ := bind_eq_ok.1 h
  obtain ⟨rfl, rfl⟩ := pure_eq_ok.1 h
  obtain ⟨hcontent, rfl⟩ := Check.readText_eq_ok.1 hr
  rw [hq.disk] at hcontent
  subst hw
  exact ⟨⟨hq.disk, hq.processes⟩, content, hcontent, rfl⟩

theorem recordAll_eq_ok {findings : List Finding} {records : List Record}
    (h : recordAll m findings w = .ok records w') :
    Quiet w w' ∧ List.Forall₂ (fun finding r => ∃ content,
      w.disk.readText finding.file = .ok content ∧
        r = recordOf finding (m.resolve w.disk finding.file) content) findings records := by
  induction findings generalizing w records with
  | nil =>
    obtain ⟨rfl, rfl⟩ := pure_eq_ok.1 h
    exact ⟨.refl _, .nil⟩
  | cons finding rest ih =>
    rw [recordAll] at h
    obtain ⟨r, w₁, hr, h⟩ := bind_eq_ok.1 h
    obtain ⟨others, w₂, ho, h⟩ := bind_eq_ok.1 h
    obtain ⟨rfl, rfl⟩ := pure_eq_ok.1 h
    obtain ⟨hq, hr⟩ := recordFinding_eq_ok hr
    obtain ⟨hq', ho⟩ := ih ho
    rw [hq.disk] at ho
    exact ⟨hq.trans hq', .cons hr ho⟩

end Linting

namespace Pipeline

open CheckM Compilation

/-- The stages that a check goes through, with what each one answers and the worlds in between. -/
structure Stages (dirs : List Path) (root : Path) (compiler : Compiler) (linter : Linter)
    (options : Options) (w w' : World) where
  discovery : Discovery
  discovered : World
  discovers :
    Discovery.run dirs options.templateExtension options.exclude w = .ok discovery discovered
  canonical : Path
  begun : World
  grows : Disk.Grows discovered.disk begun.disk
  processes : begun.processes = discovered.processes
  resolves : begun.disk.canonicalize root = .ok canonical
  attempts : List Attempt
  sources : attempts.map Attempt.source = discovery.files
  outcome : Compilation
  finished : World
  course : Course canonical compiler options.targetExtension begun {} attempts outcome finished
  listing : World
  quiet_listing : Quiet finished listing
  files : List Path
  listed : World
  lists : linter.files canonical listing = .ok files listed
  linting : World
  quiet_linting : Quiet listed linting
  findings : List Finding
  linted : World
  lints : linter.lint files linting = .ok findings linted
  quiet_end : Quiet linted w'

variable {dirs : List Path} {root : Path} {compiler : Compiler} {linter : Linter} {options : Options}
  {w w' : World} {report : Report}

theorem linting_stage {sourceMap : SourceMap}
    (h : Linting.run root linter sourceMap w = .ok report w') :
    ∃ listing files listed linting findings linted, Quiet w listing ∧
      linter.files root listing = .ok files listed ∧ Quiet listed linting ∧
      linter.lint files linting = .ok findings linted ∧ Quiet linted w' ∧
      List.Forall₂ (fun finding r => ∃ content, w'.disk.readText finding.file = .ok content ∧
        r = Linting.recordOf finding (sourceMap.resolve w'.disk finding.file) content)
        findings report.records := by
  obtain ⟨w₁, hbody, rfl⟩ := within_eq_ok.1 h
  obtain ⟨_, listing, hr, hbody⟩ := bind_eq_ok.1 hbody
  obtain ⟨files, listed, hf, hbody⟩ := bind_eq_ok.1 hbody
  obtain ⟨_, w₂, hn, hbody⟩ := bind_eq_ok.1 hbody
  obtain ⟨_, linting, hr', hbody⟩ := bind_eq_ok.1 hbody
  obtain ⟨findings, linted, hl, hbody⟩ := bind_eq_ok.1 hbody
  obtain ⟨records, w₃, ha, hbody⟩ := bind_eq_ok.1 hbody
  obtain ⟨rfl, rfl⟩ := pure_eq_ok.1 hbody
  obtain ⟨hq, hrecords⟩ := Linting.recordAll_eq_ok ha
  have hlisting := record_eq_ok hr
  refine ⟨listing, files, listed, linting, findings, linted, ⟨hlisting.disk, hlisting.processes⟩, hf,
    (note_eq_ok hn).trans (record_eq_ok hr'), hl, ⟨hq.disk, hq.processes⟩, ?_⟩
  rw [← hq.disk] at hrecords
  exact hrecords

/-- A check that succeeds has gone through all stages, and its report is what they leave. -/
theorem stages_of_run (h : run dirs root compiler linter options w = .ok report w') :
    ∃ (s : Stages dirs root compiler linter options w w') (compiled linted : List Record),
      report.records = compiled ++ linted ∧
      List.Forall₂ Describes (s.attempts.filter Attempt.failed) compiled ∧
      List.Forall₂ (fun finding r => ∃ content, w'.disk.readText finding.file = .ok content ∧
        r = Linting.recordOf finding (s.outcome.sourceMap.resolve w'.disk finding.file) content)
        s.findings linted := by
  obtain ⟨discovery, discovered, hd, h⟩ := bind_eq_ok.1 h
  obtain ⟨w₁, hq₁, h⟩ := note_if_eq_ok h
  obtain ⟨_, w₂, he, h⟩ := bind_eq_ok.1 h
  obtain ⟨canonical, w₃, hc, h⟩ := bind_eq_ok.1 h
  obtain ⟨outcome, w₄, ho, h⟩ := bind_eq_ok.1 h
  obtain ⟨_, w₅, hn, h⟩ := bind_eq_ok.1 h
  obtain ⟨linted, w₆, hl, h⟩ := bind_eq_ok.1 h
  obtain ⟨rfl, rfl⟩ := pure_eq_ok.1 h
  obtain ⟨hcanonical, rfl⟩ := Check.canonicalize_eq_ok.1 hc
  obtain ⟨hg₂, hp₂⟩ := Check.ensureDirectory_adds he
  rw [hq₁.disk] at hg₂
  obtain ⟨begun, attempts, finished, hbegun, hs, hcourse, hq₄⟩ := Compilation.run_eq_ok ho
  obtain ⟨hg, hp⟩ := Check.ensureDirectory_adds hbegun
  obtain ⟨listing, files, listed, linting, findings, last, hql, hf, hqf, hlint, hqe, hrecords⟩ :=
    linting_stage hl
  obtain ⟨compiled, hcompiled, hfailures⟩ := hcourse.records
  exact ⟨{
      discovery, discovered, canonical, begun, attempts, outcome, finished, listing, files, listed,
      linting, findings, linted := last
      discovers := hd
      grows := hg₂.grows.trans hg.grows
      processes := hp.trans (hp₂.trans hq₁.processes)
      resolves := hg.grows.canonicalize_eq hcanonical
      sources := hs
      course := hcourse
      quiet_listing := (hq₄.trans (note_eq_ok hn)).trans hql
      lists := hf
      quiet_linting := hqf
      lints := hlint
      quiet_end := hqe }, compiled, linted.records, by simp [Report.append, hcompiled], hfailures,
    hrecords⟩

theorem count_of_parts {s : Stages dirs root compiler linter options w w'}
    {compiled linted : List Record} {R : Finding → Record → Prop}
    (hparts : report.records = compiled ++ linted)
    (hfailures : List.Forall₂ Describes (s.attempts.filter Attempt.failed) compiled)
    (hfindings : List.Forall₂ R s.findings linted) :
    report.count = s.attempts.countP Attempt.failed + s.findings.length := by
  rw [Report.count, hparts, List.length_append, ← hfailures.length_eq, ← hfindings.length_eq,
    List.countP_eq_length_filter]

end Pipeline

namespace Compilation

/-- A template compiled, and its artifact is where the file is. -/
def Attempt.Made (d : Disk) (root : Path) (extension : Text) (file : Path) (a : Attempt) : Prop :=
  a.succeeded ∧ ∃ canonical, d.canonicalize (Artifact.path root a.source extension) = .ok canonical ∧
    d.canonicalize file = .ok canonical

def LastMaker (d : Disk) (root : Path) (extension : Text) (attempts : List Attempt)
    (file source : Path) : Prop :=
  ∃ earlier a later, attempts = earlier ++ a :: later ∧ a.source = source ∧
    a.Made d root extension file ∧ ∀ b ∈ later, ¬b.Made d root extension file

private theorem map_find?_of_forall₂ {α β γ : Type} {p : α → Bool} {q : β → Bool} {f : α → γ}
    {g : β → γ} {xs : List α} {ys : List β}
    (h : List.Forall₂ (fun x y => p x = q y ∧ f x = g y) xs ys) :
    (xs.find? p).map f = (ys.find? q).map g := by
  induction h with
  | nil => rfl
  | @cons x y _ _ hxy _ ih => cases hp : p x <;> simp_all

variable {root : Path} {compiler : Compiler} {extension : Text} {w w' : World}
  {done : Compilation} {attempts : List Attempt} {file source key : Path}

open Classical in
theorem lastMaker_iff {d : Disk} : LastMaker d root extension attempts file source ↔
    (attempts.reverse.find? fun a => a.Made d root extension file).map Attempt.source =
      some source := by
  rw [Option.map_eq_some_iff]
  simp only [find?_reverse_eq_some_iff, LastMaker, decide_eq_true_eq]
  constructor
  · rintro ⟨earlier, a, later, hsplit, hs, hm, hl⟩
    exact ⟨a, ⟨hm, earlier, later, hsplit, hl⟩, hs⟩
  · rintro ⟨a, ⟨hm, earlier, later, hsplit, hl⟩, hs⟩
    exact ⟨earlier, a, later, hsplit, hs, hm, hl⟩

open Classical in
/-- The source map of a compilation knows the last template that made a file. -/
theorem Course.resolve_iff (hc : compiler.KeepsDisk)
    (c : Course root compiler extension w {} attempts done w')
    (hkey : w'.disk.canonicalize file = .ok key) :
    done.sourceMap.resolve w'.disk file = some source ↔
      LastMaker w'.disk root extension attempts file source := by
  obtain ⟨artifacts, hmap, -, hartifacts⟩ := c.artifacts hc
  have hfound : (artifacts.reverse.find? fun entry => entry.1.same key).map (·.2) =
      ((attempts.filter Attempt.succeeded).reverse.find?
        fun a => a.Made w'.disk root extension file).map Attempt.source := by
    refine (map_find?_of_forall₂ ?_).symm
    rw [List.forall₂_reverse_iff]
    have hsucceeded : ∀ a ∈ attempts.filter Attempt.succeeded, a.succeeded :=
      fun a ha => (List.mem_filter.1 ha).2
    refine List.Forall₂.imp ?_ ((List.forall₂_and_left _ _).2 ⟨hsucceeded, hartifacts⟩)
    rintro a entry ⟨ha, hsource, hartifact⟩
    refine ⟨?_, hsource.symm⟩
    rw [Bool.eq_iff_iff, decide_eq_true_eq, Disk.canonical_same hartifact hkey]
    simp [Attempt.Made, ha, hartifact, hkey, eq_comm]
  have hmade : ∀ a : Attempt, (a.succeeded && a.Made w'.disk root extension file) =
      decide (a.Made w'.disk root extension file) := by
    intro a
    rw [Bool.eq_iff_iff]
    simp only [Bool.and_eq_true, decide_eq_true_eq, and_iff_right_iff_imp]
    exact fun h => h.1
  rw [lastMaker_iff, SourceMap.resolve, hkey, hmap]
  simp only [SourceMap.get?_foldl_insert, hfound, ← List.filter_reverse, List.find?_filter]
  simp [SourceMap.get?, hmade]

end Compilation

theorem Disk.canonicalize_of_readText {d : Disk} {p : Path} {text : Text}
    (h : d.readText p = .ok text) : ∃ canonical, d.canonicalize p = .ok canonical := by
  cases hr : d.resolve p with
  | ok place => exact ⟨_, canonicalize_eq_ok.2 ⟨place, hr, rfl⟩⟩
  | error fault => simp [readText, readBytes, hr] at h

namespace Pipeline

open CheckM Compilation

variable {dirs : List Path} {root : Path} {compiler : Compiler} {linter : Linter} {options : Options}
  {w w' : World} {report : Report}

namespace Stages

variable (s : Stages dirs root compiler linter options w w')

theorem disk_eq (hl : linter.KeepsDisk) : w'.disk = s.finished.disk := by
  rw [s.quiet_end.disk, hl.lint _ s.lints, s.quiet_linting.disk, hl.files _ s.lists,
    s.quiet_listing.disk]

/-- The record that a finding asks for: it shows the text of the file, and its source is the last
template that made the file. -/
structure Reports (finding : Finding) (r : Record) : Prop where
  kind : r.kind = .lint
  file : r.file = finding.file
  error : r.error = finding.error
  line : r.line = max finding.line 1
  content : w'.disk.readText finding.file = .ok r.content
  source : ∀ source, r.source = some source ↔
    LastMaker w'.disk s.canonical options.targetExtension s.attempts finding.file source

/-- A report with a record for each template that failed, then one for each finding. -/
structure Accounts (report : Report) (compiled linted : List Record) : Prop where
  parts : report.records = compiled ++ linted
  failures : List.Forall₂ Describes (s.attempts.filter Attempt.failed) compiled
  findings : List.Forall₂ s.Reports s.findings linted
  count : report.count = s.attempts.countP Attempt.failed + s.findings.length

end Stages

/-- The report of a check accounts for every template that failed to compile and for every finding of
the linter, and for nothing else. -/
theorem run_accounts (hc : compiler.KeepsDisk) (hl : linter.KeepsDisk)
    (h : run dirs root compiler linter options w = .ok report w') :
    ∃ (s : Stages dirs root compiler linter options w w') (compiled linted : List Record),
      s.Accounts report compiled linted := by
  obtain ⟨s, compiled, linted, hparts, hfailures, hlinted⟩ := stages_of_run h
  refine ⟨s, compiled, linted, hparts, hfailures, hlinted.imp ?_, count_of_parts hparts hfailures hlinted⟩
  rintro finding r ⟨content, hcontent, rfl⟩
  obtain ⟨key, hkey⟩ := Disk.canonicalize_of_readText hcontent
  refine ⟨rfl, rfl, rfl, rfl, hcontent, fun source => ?_⟩
  rw [s.disk_eq hl] at hkey ⊢
  exact s.course.resolve_iff hc hkey

/-- Two templates, of which the second is broken, and code that an earlier check has left. -/
def leftoverDisk : Disk where
  entries := [(["t"], .directory), (["t", "a.latte"], .file (Text.bytes "A")),
    (["t", "b.latte"], .file (Text.bytes "B")), (["out"], .directory),
    (["out", "old.php"], .file (Text.bytes "O"))]
  workdir := []
  workdir_names := Path.allNames_nil

def leftoverCompiler : Compiler := Scripted.compiler [("b.latte", .mistake "broken" 0 none)]

def leftoverLinter : Linter :=
  Scripted.linter { extension := "php", rules := [("a.php", [(0, "bad")]), ("old.php", [(7, "stale")])] }

def leftoverRun : EStateM.Result (Halt CheckError) World Report :=
  run ["/t"] "/out" leftoverCompiler leftoverLinter ⟨"latte", "php", []⟩ { disk := leftoverDisk }

theorem run_accounts_leftover : ∃ report w', leftoverRun = .ok report w' ∧
    report.records.map (·.source) = [some ("/t/b.latte" : Path), none, some ("/t/a.latte" : Path)] ∧
    ∃ (s : Stages ["/t"] "/out" leftoverCompiler leftoverLinter ⟨"latte", "php", []⟩
        { disk := leftoverDisk } w') (compiled linted : List Record),
      s.Accounts report compiled linted := by
  have hsources : outcome? (fun report _ => report.records.map (·.source)) leftoverRun =
      some [some ("/t/b.latte" : Path), none, some ("/t/a.latte" : Path)] := by
    decide +kernel
  obtain ⟨report, w', h, hsources⟩ := exists_of_outcome hsources
  exact ⟨report, w', h, hsources,
    run_accounts (Scripted.compiler_keepsDisk _) (Scripted.linter_keepsDisk _) h⟩

end Pipeline

end TemplateCheck
