import TemplateCheck.Proofs.Footprint
import TemplateCheck.Proofs.Tree

/-!
A directory is made unless its path exists already, and what is there is not looked at. So the answer
is a directory except in two cases: the path led to something else, or it was empty. Whatever is made
is made where nothing was, and asking again changes nothing. A check relies on this for its root: it
is a directory from then on unless it was taken before.
-/
namespace TemplateCheck

open CheckM

namespace Disk

variable {d d' : Disk} {p : Path}

def Taken (d : Disk) (p : Path) : Prop := d.pathExists p ∧ ¬d.isDirectory p

instance (d : Disk) (p : Path) : Decidable (d.Taken p) :=
  inferInstanceAs (Decidable (_ ∧ _))

theorem pathExists_of_isDirectory (h : d.isDirectory p) : d.pathExists p := by
  obtain ⟨place, hr, he⟩ := isDirectory_iff.1 h
  exact pathExists_iff.2 ⟨place, _, hr, he⟩

theorem Grows.isDirectory (g : Grows d d') (h : d.isDirectory p) : d'.isDirectory p := by
  obtain ⟨place, hr, he⟩ := isDirectory_iff.1 h
  exact isDirectory_iff.2 ⟨place, g.resolve_eq hr, g.directory he⟩

theorem Grows.taken (g : Grows d d') (h : d.Taken p) : d'.Taken p := by
  obtain ⟨hthere, hnot⟩ := h
  refine ⟨g.pathExists hthere, fun hdir => hnot ?_⟩
  obtain ⟨place, entry, hr, he⟩ := pathExists_iff.1 hthere
  obtain ⟨found, hr', hdir⟩ := isDirectory_iff.1 hdir
  obtain rfl : place = found := Except.ok.inj ((g.resolve_eq hr).symm.trans hr')
  cases entry with
  | directory => exact isDirectory_iff.2 ⟨place, hr, he⟩
  | file body =>
    obtain ⟨body', hbody⟩ := g.file he
    simp [hdir] at hbody
  | link target => simp [g.link.2 he] at hdir

theorem not_pathExists_of_empty (h : p.text = []) : ¬d.pathExists p := by
  rw [pathExists_iff]
  rintro ⟨place, entry, hr, -⟩
  exact text_ne_nil_of_resolve hr h

end Disk

namespace Check

variable {p : Path} {w w' : World}

/-- What a request for a directory leaves: a directory, unless the path was taken or empty; the
entries that were there, with directories beside them; and nothing to do for the same request. -/
structure Ensured (p : Path) (w w' : World) : Prop where
  directory : w'.disk.isDirectory p ↔ p.text ≠ [] ∧ ¬w.disk.Taken p
  adds : Disk.Adds w.disk w'.disk
  onlyDisk : w' = { w with disk := w'.disk }
  again : ensureDirectory p w' = .ok () w'

theorem ensured_of_exists (h : w.disk.pathExists p) : Ensured p w w where
  directory := by
    have hp : p.text ≠ [] := fun hempty => Disk.not_pathExists_of_empty hempty h
    constructor
    · intro hdir
      exact ⟨hp, fun htaken => htaken.2 hdir⟩
    · rintro ⟨-, hfree⟩
      by_contra hdir
      exact hfree ⟨h, hdir⟩
  adds := .refl _
  onlyDisk := rfl
  again := ensureDirectory_of_exists h

theorem ensured_of_empty (h : p.text = []) : Ensured p w w where
  directory := by
    constructor
    · intro hdir
      exact absurd (Disk.pathExists_of_isDirectory hdir) (Disk.not_pathExists_of_empty h)
    · rintro ⟨hp, -⟩
      exact absurd h hp
  adds := .refl _
  onlyDisk := rfl
  again := ensureDirectory_of_empty h

theorem ensured_of_made {disk : Disk} (hp : p.text ≠ []) (hfree : w.disk.pathExists p = false)
    (hmade : w.disk.makeDirectories p = (.ok (), disk)) : Ensured p w { w with disk } where
  directory := by
    have hdir : disk.isDirectory p := Disk.makeDirectories_isDirectory hp hmade
    have hnot : ¬w.disk.Taken p := by
      rintro ⟨hthere, -⟩
      simp [hfree] at hthere
    exact ⟨fun _ => ⟨hp, hnot⟩, fun _ => hdir⟩
  adds := by
    have hadds := Disk.makeLineage_adds p.lineage w.disk
    rwa [← Disk.makeDirectories, hmade] at hadds
  onlyDisk := rfl
  again := by
    have hdir : disk.isDirectory p := Disk.makeDirectories_isDirectory hp hmade
    exact ensureDirectory_of_exists (Disk.pathExists_of_isDirectory hdir)

theorem ensured (h : ensureDirectory p w = .ok () w') : Ensured p w w' := by
  by_cases hp : p.text = []
  · obtain ⟨-, rfl⟩ := EStateM.Result.ok.inj ((ensureDirectory_of_empty hp).symm.trans h)
    exact ensured_of_empty hp
  · rcases ensureDirectory_eq_ok.1 h with ⟨hthere, rfl⟩ | ⟨disk, hfree, hmade, rfl⟩
    · exact ensured_of_exists hthere
    · exact ensured_of_made hp hfree hmade

end Check

/-- A computation that does not take a directory away, if it succeeds. -/
def CheckM.Spares {ε α : Type} (p : Path) (x : CheckM ε α) : Prop :=
  ∀ {w w' : World} {a : α}, x w = .ok a w' → w.disk.isDirectory p → w'.disk.isDirectory p

def Compiler.Spares (c : Compiler) (p : Path) : Prop := ∀ path, (c.compile path).Spares p

structure Linter.Spares (l : Linter) (p : Path) : Prop where
  files : ∀ root, (l.files root).Spares p
  lint : ∀ files, (l.lint files).Spares p

theorem Compiler.KeepsDisk.spares {c : Compiler} (h : c.KeepsDisk) (p : Path) : c.Spares p := by
  intro path w w' answer hcalled hdir
  rwa [h path hcalled]

theorem Linter.KeepsDisk.spares {l : Linter} (h : l.KeepsDisk) (p : Path) : l.Spares p := by
  constructor
  · intro root w w' files hlisted hdir
    rwa [h.files root hlisted]
  · intro files w w' findings hlinted hdir
    rwa [h.lint files hlinted]

namespace Compilation

variable {root p : Path} {compiler : Compiler} {extension : Text} {w w' : World}
  {done done' : Compilation} {a : Attempt} {attempts : List Attempt}

theorem Turn.spares (hc : compiler.Spares p)
    (t : Turn root compiler extension w done a done' w') (h : w.disk.isDirectory p) :
    w'.disk.isDirectory p := by
  obtain ⟨w₁, hs, rfl⟩ := t.settled
  have hasked := (prepare_adds t.prepared).1.grows.isDirectory h
  have hanswered := hc a.source t.called hasked
  exact (settle_grows hs).1.isDirectory hanswered

theorem Course.spares (hc : compiler.Spares p)
    (c : Course root compiler extension w done attempts done' w') (h : w.disk.isDirectory p) :
    w'.disk.isDirectory p := by
  induction c with
  | nil w done => exact h
  | cons t _ ih => exact ih (t.spares hc h)

theorem run_spares (hc : compiler.Spares p) {sources : List Path} :
    (run root sources compiler extension).Spares p := by
  intro w w' outcome h hdir
  obtain ⟨begun, attempts, finished, hbegun, -, course, hquiet⟩ := run_eq_ok h
  rw [hquiet.disk]
  exact course.spares hc ((Check.ensureDirectory_adds hbegun).1.grows.isDirectory hdir)

end Compilation

theorem Linting.run_spares {linter : Linter} {p : Path} (hl : linter.Spares p) (root : Path)
    (m : SourceMap) : (run root linter m).Spares p := by
  intro w w' report h hdir
  obtain ⟨listing, files, listed, linting, findings, linted, hlisting, hfiles, hlinting, hlint, hend,
    -⟩ := Pipeline.linting_stage h
  rw [hend.disk]
  refine hl.lint files hlint ?_
  rw [hlinting.disk]
  refine hl.files root hfiles ?_
  rwa [hlisting.disk]

namespace Pipeline

variable {dirs : List Path} {root canonical : Path} {compiler : Compiler} {linter : Linter}
  {options : Options} {w w' begun : World} {discovery : Discovery} {report : Report}

/-- When the first template has its turn, the root is a directory unless it was taken. The empty path
does not get so far. -/
theorem opening_root (h : opening dirs root options w = .ok (discovery, canonical) begun) :
    begun.disk.isDirectory root ↔ ¬w.disk.Taken root := by
  obtain ⟨-, v, -, hdisk, hensure, hcanonical⟩ := opening_steps h
  obtain ⟨place, hresolve, -⟩ := Disk.canonicalize_eq_ok.1 hcanonical
  rw [(Check.ensured hensure).directory, hdisk]
  exact and_iff_right (Disk.text_ne_nil_of_resolve hresolve)

theorem run_root (hc : compiler.Spares root) (hl : linter.Spares root)
    (h : run dirs root compiler linter options w = .ok report w') (hfree : ¬w.disk.Taken root) :
    w'.disk.isDirectory root := by
  rw [run_eq_opening] at h
  obtain ⟨⟨discovery, canonical⟩, begun, hopening, h⟩ := bind_eq_ok.1 h
  obtain ⟨outcome, compiled, hcompile, h⟩ := bind_eq_ok.1 h
  obtain ⟨_, noted, hnote, h⟩ := bind_eq_ok.1 h
  obtain ⟨linted, last, hlint, h⟩ := bind_eq_ok.1 h
  obtain ⟨-, rfl⟩ := pure_eq_ok.1 h
  have hbegun := (opening_root hopening).2 hfree
  have hcompiled := Compilation.run_spares hc hcompile hbegun
  refine Linting.run_spares hl canonical outcome.sourceMap hlint ?_
  rwa [(note_eq_ok hnote).disk]

theorem run_taken (hc : compiler.KeepsDisk) (hl : linter.KeepsDisk)
    (h : run dirs root compiler linter options w = .ok report w') (htaken : w.disk.Taken root) :
    w'.disk.Taken root := by
  obtain ⟨s, -⟩ := stages_of_run h
  have hbegun : Disk.Grows w.disk s.begun.disk := by
    have hdiscovered := (Discovery.run_eq_ok s.discovers).1.disk
    exact hdiscovered ▸ s.grows
  rw [s.disk_eq hl]
  exact (hbegun.trans (s.course.grows hc)).taken htaken

end Pipeline

namespace Check

/-- A directory that was asked for is there afterwards, unless its path was taken or empty; nothing
else is lost or changed, however the request ends, and asking again does nothing. So the root of a
check that succeeds is a directory unless it was taken. -/
theorem directory_ensured_unless_taken (p : Path) (w : World) :
    (∀ w', ensureDirectory p w = .ok () w' → Ensured p w w') ∧
    Disk.Adds w.disk ((ensureDirectory p).diskAfter w) ∧
    ∀ dirs compiler linter options report w',
      Pipeline.run dirs p compiler linter options w = .ok report w' →
      (∃ discovery canonical begun,
        Pipeline.opening dirs p options w = .ok (discovery, canonical) begun ∧
        (begun.disk.isDirectory p ↔ ¬w.disk.Taken p)) ∧
      (compiler.Spares p → linter.Spares p → ¬w.disk.Taken p → w'.disk.isDirectory p) ∧
      (compiler.KeepsDisk → linter.KeepsDisk → w.disk.Taken p → w'.disk.Taken p) := by
  refine ⟨fun w' h => ensured h, ensureDirectory_after p w, ?_⟩
  intro dirs compiler linter options report w' h
  refine ⟨?_, fun hc hl hfree => Pipeline.run_root hc hl h hfree,
    fun hc hl htaken => Pipeline.run_taken hc hl h htaken⟩
  rw [Pipeline.run_eq_opening] at h
  obtain ⟨⟨discovery, canonical⟩, begun, hopening, -⟩ := bind_eq_ok.1 h
  exact ⟨discovery, canonical, begun, hopening, Pipeline.opening_root hopening⟩

/-- A link to a directory, a template, and a file with the name of an output directory. -/
def takenDisk : Disk where
  entries := [(["real"], .directory), (["ln"], .link "real"), (["t"], .directory),
    (["t", "a.latte"], .file (Text.bytes "A")), (["empty"], .directory),
    (["out"], .file (Text.bytes "x"))]
  workdir := []
  workdir_names := Path.allNames_nil

/-- Through a link, with a directory that is made only to be left again. -/
def windingPath : Path := "ln/a/../b//c/"

def takenCheck (dirs : List Path) (root : Path) : EStateM.Result (Halt CheckError) World Report :=
  Pipeline.run dirs root (Scripted.compiler []) (Scripted.linter { extension := "php" })
    ⟨"latte", "php", []⟩ { disk := takenDisk }

theorem directory_ensured_unless_taken_winding :
    (∃ w', ensureDirectory windingPath { disk := takenDisk } = .ok () w' ∧
      w'.disk.isDirectory windingPath ∧ ensureDirectory windingPath w' = .ok () w') ∧
    ∃ report w', takenCheck ["t"] windingPath = .ok report w' ∧ w'.disk.isDirectory windingPath := by
  obtain ⟨hrequest, -, hcheck⟩ := directory_ensured_unless_taken windingPath { disk := takenDisk }
  have hfree : ¬takenDisk.Taken windingPath := by decide +kernel
  constructor
  · have hrun : outcome? (fun _ _ => ()) (ensureDirectory windingPath { disk := takenDisk }) =
        some () := by
      decide +kernel
    obtain ⟨_, w', h, -⟩ := exists_of_outcome hrun
    have hensured := hrequest w' h
    exact ⟨w', h, hensured.directory.2 ⟨by decide, hfree⟩, hensured.again⟩
  · have hrun : outcome? (fun _ _ => ()) (takenCheck ["t"] windingPath) = some () := by
      decide +kernel
    obtain ⟨report, w', h, -⟩ := exists_of_outcome hrun
    exact ⟨report, w', h, (hcheck _ _ _ _ report w' h).2.1
      ((Scripted.compiler_keepsDisk _).spares _) ((Scripted.linter_keepsDisk _).spares _) hfree⟩

/-- A file is passed off as a directory, and so is the empty path; a check with the file as its root
succeeds. -/
theorem file_passes_for_directory :
    outcome? (fun _ w' => w'.disk.isDirectory "out") (ensureDirectory "out" { disk := takenDisk }) =
      some false ∧
    outcome? (fun _ w' => w'.disk.isDirectory "") (ensureDirectory "" { disk := takenDisk }) =
      some false ∧
    outcome? (fun _ w' => w'.disk.isDirectory "out") (takenCheck ["empty"] "out") = some false := by
  decide +kernel

end Check

end TemplateCheck
