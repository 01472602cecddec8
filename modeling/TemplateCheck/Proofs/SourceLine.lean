import TemplateCheck.Proofs.Footprint
import TemplateCheck.Proofs.Validation

/-!
An error of the compiler is its own source. A finding is made in a file with the extension of the
target language, and the template behind it has another one, so on a disk without links the two are
never the same path, however the directories lie. A rendering therefore has a source line for each
finding and for no error of the compiler.
-/
namespace TemplateCheck

open CheckM Path

namespace Backend

variable {programs : Programs} {command : ToolCommand} {pattern : FailurePattern} {w w' : World}

theorem lintOne_file {file : Path} {finding : Finding}
    (h : lintOne programs command pattern file w = .ok (some finding) w') : finding.file = file := by
  obtain ⟨output, w₁, -, hrest⟩ := bind_eq_ok.1 h
  by_cases hs : output.isSuccess
  · rw [if_pos hs] at hrest
    obtain ⟨hnone, -⟩ := pure_eq_ok.1 hrest
    cases hnone
  · rw [if_neg hs] at hrest
    obtain ⟨hsome, -⟩ := pure_eq_ok.1 hrest
    rw [Option.some.inj hsome, findingOf_file]

/-- Findings are made in the files that were given. -/
theorem lintAll_files {files : List Path} {findings : List Finding}
    (h : lintAll programs command pattern files w = .ok findings w') :
    ∀ finding ∈ findings, finding.file ∈ files := by
  induction files generalizing w w' findings with
  | nil =>
    obtain ⟨rfl, -⟩ := pure_eq_ok.1 h
    simp
  | cons file rest ih =>
    rw [lintAll] at h
    obtain ⟨found, w₁, hone, hrest⟩ := bind_eq_ok.1 h
    cases found with
    | none => exact fun finding hf => List.mem_cons_of_mem _ (ih hrest finding hf)
    | some first =>
      obtain ⟨_, w₂, -, hrest⟩ := bind_eq_ok.1 hrest
      obtain ⟨others, w₃, hothers, hend⟩ := bind_eq_ok.1 hrest
      obtain ⟨rfl, -⟩ := pure_eq_ok.1 hend
      intro finding hf
      rcases List.mem_cons.1 hf with rfl | hf
      · rw [lintOne_file hone]
        exact List.mem_cons_self
      · exact List.mem_cons_of_mem _ (ih hothers finding hf)

end Backend

namespace Record

variable {r : Record}

theorem not_distinct_of_own (h : r.source = some r.file) : ¬r.hasDistinctSource := by
  simp [hasDistinctSource, h, Path.same]

theorem distinct_iff : r.hasDistinctSource ↔ ∀ source, r.source = some source → ¬source.same r.file := by
  cases h : r.source <;> simp [hasDistinctSource, h]

end Record

namespace Pipeline

open Compilation Command

variable {dirs : List Path} {root : Path} {options : Options} {w w' : World} {compiler : Compiler}
  {programs : Programs} {lint : ToolCommand} {pattern : FailurePattern} {report : Report}

theorem Stages.linted_not_template
    (s : Stages dirs root compiler (Backend.linter programs lint pattern options.targetExtension)
      options w w') (hc : compiler.KeepsDisk) (hlinks : w.disk.LinkFree)
    (hxy : options.templateExtension ≠ options.targetExtension) {source file : Path}
    (hsource : source ∈ s.discovery.files) (hfile : file ∈ s.files) : ¬source.same file := by
  have hlinks' := s.linkFree hc Backend.linter_keepsDisk hlinks
  have htemplate := Discovery.shownExtension_of_mem hlinks s.discovers hsource
  have htarget : file.shownExtension = some options.targetExtension :=
    ((Selection.mem_files s.selects).1 hfile).shownExtension hlinks'
  obtain ⟨place, -, rfl, hn, -⟩ := Discovery.file_place s.discovers hsource
  obtain ⟨place', -, rfl, hn', -⟩ := ((Selection.mem_files s.selects).1 hfile).place
  intro hsame
  rw [(same_ofNames hn hn').1 hsame, htarget] at htemplate
  exact hxy (Option.some.inj htemplate).symm

/-- The source of a record is distinct exactly where the record is a finding. -/
theorem distinct_iff_lint (hc : compiler.KeepsDisk) (hlinks : w.disk.LinkFree)
    (hxy : options.templateExtension ≠ options.targetExtension)
    (h : run dirs root compiler (Backend.linter programs lint pattern options.targetExtension) options w =
      .ok report w') : ∀ r ∈ report.records, r.hasDistinctSource ↔ r.kind = .lint := by
  obtain ⟨s, compiled, linted, hparts, hfailures, hfindings⟩ := stages_of_run h
  intro r hr
  rw [hparts] at hr
  rcases List.mem_append.1 hr with hr | hr
  · obtain ⟨a, -, error, content, -, -, rfl⟩ := exists_of_forall₂ hfailures.flip hr
    simp [Record.not_distinct_of_own]
  · obtain ⟨finding, hfinding, content, hcontent, rfl⟩ := exists_of_forall₂ hfindings.flip hr
    refine iff_of_true (Record.distinct_iff.2 fun source hsource => ?_) rfl
    obtain ⟨key, hkey⟩ := Disk.canonicalize_of_readText hcontent
    have hresolve : s.outcome.sourceMap.resolve w'.disk finding.file = some source := hsource
    rw [s.disk_eq Backend.linter_keepsDisk] at hkey hresolve
    obtain ⟨earlier, a, later, hattempts, rfl, -⟩ := (s.course.resolve_iff hc hkey).1 hresolve
    refine s.linted_not_template hc hlinks hxy (s.mem_sources.2 ⟨a, ?_, rfl⟩) ?_
    · simp [hattempts]
    · exact Backend.lintAll_files s.lints finding hfinding

end Pipeline

namespace Rendering.Terminal

/-- The line that names the source of a record, as far as it is known. -/
def sourceRow (f : Formatter) (source : Option Path) : Text :=
  line ("Source: " ++ source.elim (f.apply .dim "<unknown>") Path.display)

/-- A block whose source line depends on the kind of its record alone. -/
def blockByKind (f : Formatter) (v : Verbosity) (r : Record) : List Text :=
  heading f r ++
    (match r.kind with
      | .compile => []
      | .lint => [sourceRow f r.source]) ++
    (if v.showsContent then contentPart f r else []) ++ [line []]

theorem sourceLine_eq_row (f : Formatter) (r : Record) :
    sourceLine f r = if r.hasDistinctSource then [sourceRow f r.source] else [] := by
  unfold sourceLine sourceRow
  cases r.source <;> rfl

theorem block_eq_byKind {r : Record} (h : r.hasDistinctSource ↔ r.kind = .lint) (f : Formatter)
    (v : Verbosity) : block f v r = blockByKind f v r := by
  rw [block, blockByKind, sourceLine_eq_row]
  cases hk : r.kind with
  | compile => simp [h, hk]
  | lint => simp [h, hk]

end Rendering.Terminal

namespace Command

open Rendering.Terminal

variable {programs : Programs} {c : BootstrapConfig} {b : Bootstrap} {origin root : Path}
  {dirs : List Path} {report : Report} {w w' : World}

/-- Under accepted settings and on a disk without links, a record of a check has a distinct source
exactly where it is a finding, and a rendering that lists the records has a source line for just
those. -/
theorem source_line_separates_kinds (hlinks : w.disk.LinkFree)
    (hb : Bootstrap.ofConfigAt origin c = .ok b)
    (h : Pipeline.run dirs root (compilerOf programs b) (linterOf programs b) (optionsOf b) w =
      .ok report w') :
    (∀ r ∈ report.records, r.hasDistinctSource ↔ r.kind = .lint) ∧
    ∀ f v, render f v report = summary f report.count ++
      (if v.listsRecords then report.records.flatMap (blockByKind f v) else []) := by
  have husable : Bootstrap.Usable b.config := by
    rw [Bootstrap.config_of_ofConfigAt hb]
    exact Bootstrap.exists_ofConfigAt.1 ⟨b, hb⟩
  have hrun : Pipeline.run dirs root (compilerOf programs b)
      (Backend.linter programs ⟨b.config.linter.program, b.config.linter.args⟩ b.linterPattern
        (optionsOf b).targetExtension) (optionsOf b) w = .ok report w' := h
  have hrecords :=
    Pipeline.distinct_iff_lint Backend.compiler_keepsDisk hlinks husable.differ hrun
  refine ⟨hrecords, fun f v => ?_⟩
  have hblocks : report.records.flatMap (block f v) = report.records.flatMap (blockByKind f v) := by
    rw [List.flatMap_def, List.flatMap_def,
      List.map_congr_left fun r hr => block_eq_byKind (hrecords r hr) f v]
  rw [render, hblocks]

/-- The templates lie at the top of the disk and the root is a directory beside them, in which an
earlier check has left code. -/
def mixedDisk : Disk where
  entries := [(["a.latte"], .file (Text.bytes "A")), (["b.latte"], .file (Text.bytes "B")),
    (["out"], .directory), (["out", "old.php"], .file (Text.bytes "O"))]
  workdir := []
  workdir_names := allNames_nil

/-- The compiler fails on the second template, and the linter on every file. -/
def mixedPrograms : Programs where
  start _ _ program args :=
    .ok ⟨.exited (if program = "php".toList ∨ args = ["/b.latte".toList] then 1 else 0), [67], []⟩

theorem source_line_separates_kinds_mixed : mixedDisk.LinkFree ∧
    ∃ b report w', Bootstrap.ofConfigAt "<default>" {} = .ok b ∧
      Pipeline.run ["/"] "/out" (compilerOf mixedPrograms b) (linterOf mixedPrograms b) (optionsOf b)
        { disk := mixedDisk } = .ok report w' ∧
      report.records.map (fun r => (r.kind, r.source)) = [(.compile, some ("/b.latte" : Path)),
        (.lint, some ("/a.latte" : Path)), (.lint, none)] ∧
      (∀ r ∈ report.records, r.hasDistinctSource ↔ r.kind = .lint) ∧
      ∀ f v, render f v report = summary f report.count ++
        (if v.listsRecords then report.records.flatMap (blockByKind f v) else []) := by
  have hlinks : mixedDisk.LinkFree := Disk.linkFree_of_entries (by decide)
  have hrun : (Bootstrap.ofConfigAt "<default>" {}).toOption.bind (fun b =>
      outcome? (fun report _ => report.records.map fun r => (r.kind, r.source))
        (Pipeline.run ["/"] "/out" (compilerOf mixedPrograms b) (linterOf mixedPrograms b) (optionsOf b)
          { disk := mixedDisk })) = some [(.compile, some ("/b.latte" : Path)),
            (.lint, some ("/a.latte" : Path)), (.lint, none)] := by
    decide +kernel
  obtain ⟨b, hb, hrun⟩ := Option.bind_eq_some_iff.1 hrun
  obtain ⟨report, w', hrun, hrecords⟩ := exists_of_outcome hrun
  have hb := ok_of_toOption hb
  exact ⟨hlinks, b, report, w', hb, hrun, hrecords, source_line_separates_kinds hlinks hb hrun⟩

end Command

end TemplateCheck
