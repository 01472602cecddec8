import TemplateCheck.Proofs.Agreement

/-!
A template that does not compile gets no artifact, but nothing is removed for it either. So the file at
its target, if there is one, is either the work of another template of the same compilation or a
leftover that was there before.
-/
namespace TemplateCheck.Compilation

open CheckM Path

section Leaves

variable (root : Path) (extension : Text) (attempts : List Attempt) (d d' : Disk)

/-- The place held the file before, and no attempt has written to it. -/
structure Leftover (place : Place) (body : ByteArray) : Prop where
  before : d.get? place = some (.file body)
  unwritten : ∀ b ∈ attempts, ¬b.WritesTo d' root extension place

/-- What lies at the target of a failed attempt, on the disks before and after the compilation. The
target is looked up afterwards, because the directories on its way may not have been there before. -/
structure Leaves (a : Attempt) : Prop where
  file_iff : d'.isFile (Artifact.path root a.source extension) ↔
    ∃ place, d'.resolve (Artifact.path root a.source extension) = .ok place ∧
      ((∃ body, d.get? place = some (.file body)) ∨
        ∃ b ∈ attempts, b ≠ a ∧ b.WritesTo d' root extension place)
  content : ∀ {place body}, d'.resolve (Artifact.path root a.source extension) = .ok place →
    d'.get? place = some (.file body) →
    Leftover root extension attempts d d' place body ∨
      ∃ b code, LastWrite d' root extension attempts place b code ∧ body = Text.bytes code

end Leaves

variable {root : Path} {compiler : Compiler} {extension : Text} {w w' : World}
  {outcome : Compilation} {a b : Attempt} {attempts : List Attempt} {place : Place}
  {sources : List Path} {code : Text} {d d' : Disk} {m m' : SourceMap}

theorem LastWrite.writesTo (h : LastWrite d root extension attempts place b code) :
    b ∈ attempts ∧ b.WritesTo d root extension place := by
  obtain ⟨earlier, later, rfl, -⟩ := h.last
  exact ⟨by simp, Attempt.succeeded_iff.2 ⟨code, h.answer⟩, h.leads⟩

theorem Attempt.WritesTo.ne_of_failed (h : b.WritesTo d root extension place) (ha : a.failed) :
    b ≠ a := by
  rintro rfl
  simp [Attempt.failed, h.1] at ha

theorem History.file_iff (h : History root extension attempts place d d' m m') :
    (∃ body, d'.get? place = some (.file body)) ↔
      (∃ body, d.get? place = some (.file body)) ∨
        ∃ b ∈ attempts, b.WritesTo d' root extension place := by
  cases h with
  | written b code write content _ =>
    exact iff_of_true ⟨_, content⟩ (.inr ⟨b, write.writesTo⟩)
  | untouched unwritten content _ =>
    simp only [content]
    refine (or_iff_left ?_).symm
    rintro ⟨b, hb, hwrites⟩
    exact unwritten b hb hwrites

theorem Performed.leaves (hc : compiler.KeepsDisk)
    (h : Performed root sources compiler extension w attempts outcome w') (ha : a.failed) :
    Leaves root extension attempts w.disk w'.disk a where
  file_iff := by
    rw [Disk.isFile_iff]
    constructor
    · rintro ⟨place, body, hr, hf⟩
      refine ⟨place, hr, ?_⟩
      refine ((h.history hc (Disk.resolve_names hr)).file_iff.1 ⟨body, hf⟩).imp_right ?_
      rintro ⟨b, hb, hwrites⟩
      exact ⟨b, hb, hwrites.ne_of_failed ha, hwrites⟩
    · rintro ⟨place, hr, hfile⟩
      obtain ⟨body, hf⟩ := (h.history hc (Disk.resolve_names hr)).file_iff.2
        (hfile.imp_right fun ⟨b, hb, _, hwrites⟩ => ⟨b, hb, hwrites⟩)
      exact ⟨place, body, hr, hf⟩
  content := by
    intro place body hr hf
    cases h.history hc (Disk.resolve_names hr) with
    | written b code write content _ =>
      rw [content] at hf
      exact .inr ⟨b, code, write, by simpa using hf.symm⟩
    | untouched unwritten content _ => exact .inl ⟨(content body).1 hf, unwritten⟩

/-- At the target of a template that failed there is a file exactly if another template wrote it or it
was there before the compilation. -/
theorem failed_template_leaves (hc : compiler.KeepsDisk)
    (h : run root sources compiler extension w = .ok outcome w') :
    ∃ attempts, Performed root sources compiler extension w attempts outcome w' ∧
      ∀ a ∈ attempts, a.failed → Leaves root extension attempts w.disk w'.disk a := by
  obtain ⟨attempts, hp⟩ := exists_performed h
  exact ⟨attempts, hp, fun a _ ha => hp.leaves hc ha⟩

/-- The artifact of `a.latte` is from an earlier check, and `b.txt` has the target of `b.latte`. -/
def staleDisk : Disk where
  entries := [(["t"], .directory), (["t", "a.latte"], .file (Text.bytes "A")),
    (["t", "b.latte"], .file (Text.bytes "B")), (["t", "b.txt"], .file (Text.bytes "T")),
    (["t", "c.latte"], .file (Text.bytes "C")), (["out"], .directory), (["out", "t"], .directory),
    (["out", "t", "a.php"], .file (Text.bytes "old"))]
  workdir := []
  workdir_names := allNames_nil

def staleSources : List Path := ["/t/a.latte", "/t/b.latte", "/t/b.txt", "/t/c.latte"]

def staleCompiler : Compiler :=
  Scripted.compiler [("a.latte", .mistake "broken" 1 none), ("b.latte", .mistake "broken" 1 none),
    ("c.latte", .mistake "broken" 1 none)]

def staleTargets (w : World) : List Bool :=
  [w.disk.isFile "/out/t/a.php", w.disk.isFile "/out/t/b.php", w.disk.isFile "/out/t/c.php"]

theorem failed_template_leaves_stale : ∃ outcome w',
    run "out" staleSources staleCompiler "php" { disk := staleDisk } = .ok outcome w' ∧
    outcome.report.count = 3 ∧ staleTargets w' = [true, true, false] ∧
    ∃ attempts, Performed "out" staleSources staleCompiler "php" { disk := staleDisk } attempts
        outcome w' ∧
      ∀ a ∈ attempts, a.failed → Leaves "out" "php" attempts staleDisk w'.disk a := by
  have hrun : outcome? (fun outcome w => (outcome.report.count, staleTargets w))
      (run "out" staleSources staleCompiler "php" { disk := staleDisk }) =
      some (3, [true, true, false]) := by
    decide +kernel
  obtain ⟨outcome, w', h, hrun⟩ := exists_of_outcome hrun
  obtain ⟨hcount, htargets⟩ := Prod.mk.inj hrun
  exact ⟨outcome, w', h, hcount, htargets, failed_template_leaves (Scripted.compiler_keepsDisk _) h⟩

def emptyRootDisk : Disk where
  entries := [(["t"], .directory), (["t", "a.latte"], .file (Text.bytes "A"))]
  workdir := []
  workdir_names := allNames_nil

/-- A template is compiled, and compiled once more after it has been broken. -/
def brokenLater : Check Compilation := do
  let _ ← run "out" ["/t/a.latte"] (Scripted.compiler []) "php"
  run "out" ["/t/a.latte"] (Scripted.compiler [("a.latte", .mistake "broken" 1 none)]) "php"

/-- The second compilation reports the template and writes nothing, and the artifact of the first is
still there. -/
theorem broken_template_keeps_artifact : ∃ outcome w',
    brokenLater { disk := emptyRootDisk } = .ok outcome w' ∧ outcome.compiled = [] ∧
      outcome.report.count = 1 ∧ w'.disk.isFile (Artifact.path "out" "/t/a.latte" "php") := by
  have hrun : outcome? (fun outcome w => (outcome.compiled, outcome.report.count,
      w.disk.isFile (Artifact.path "out" "/t/a.latte" "php")))
      (brokenLater { disk := emptyRootDisk }) = some ([], 1, true) := by
    decide +kernel
  obtain ⟨outcome, w', h, hrun⟩ := exists_of_outcome hrun
  obtain ⟨hcompiled, hrest⟩ := Prod.mk.inj hrun
  obtain ⟨hcount, hfile⟩ := Prod.mk.inj hrest
  exact ⟨outcome, w', h, hcompiled, hcount, hfile⟩

end TemplateCheck.Compilation
