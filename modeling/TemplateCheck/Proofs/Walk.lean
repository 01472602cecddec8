import TemplateCheck.Proofs.Union

/-!
A walk goes from a root to the entries of each directory that it meets. A link to a directory is met
and not entered, so a walk ends on every tree, however its links are tied. From the paths that are met
the tests choose, and what is chosen comes out as canonical paths, in the order of their names and
once each. The extension is tested as it is shown.
-/
namespace TemplateCheck

open Std

theorem Text.compare_eq_lt_iff {s t : Text} : Text.compare s t = .lt ↔ s < t := by
  induction s generalizing t with
  | nil => cases t <;> simp [Text.compare]
  | cons a s ih =>
    cases t with
    | nil => simp [Text.compare]
    | cons b t =>
      have hlt : a < b ↔ a.toNat < b.toNat := Iff.rfl
      rw [Text.compare, List.cons_lt_cons_iff, hlt, ← ih, ← Char.toNat_inj]
      rcases Nat.lt_trichotomy a.toNat b.toNat with h | h | h
      · simp [h]
      · simp [h]
      · simp [Nat.not_lt_of_gt h, h, Nat.ne_of_gt h]

namespace Path

theorem compareComponents_normal {names others : List Text} :
    compareComponents (names.map .normal) (others.map .normal) = .lt ↔ names < others := by
  induction names generalizing others with
  | nil => cases others <;> simp [compareComponents]
  | cons name rest ih =>
    cases others with
    | nil => simp [compareComponents]
    | cons other more =>
      have heq : Text.compare name other = .eq ↔ name = other := LawfulEqCmp.compare_eq_iff_eq
      simp only [List.map_cons, compareComponents, Component.compare, Ordering.then_eq_lt, ih,
        Text.compare_eq_lt_iff, heq, List.cons_lt_cons_iff]

theorem compare_ofNames {names others : List Text} (h : AllNames names) (ho : AllNames others) :
    (ofNames names).compare (ofNames others) = .lt ↔ names < others := by
  rw [compare, components_ofNames h, components_ofNames ho, compareComponents]
  exact compareComponents_normal

end Path

/-- The places that a walk meets from a directory on: the directory itself, and what stands in a
directory that was met. -/
inductive Disk.Met (d : Disk) (top : Place) : Place → Prop where
  | top : d.Met top top
  | entry {place : Place} {name : Text} {entry : Entry} (met : d.Met top place)
      (directory : d.get? place = some .directory) (stands : d.get? (place ++ [name]) = some entry) :
      d.Met top (place ++ [name])

theorem Disk.Met.isPrefix {d : Disk} {top place : Place} (h : d.Met top place) : top <+: place := by
  induction h with
  | top => exact List.prefix_refl top
  | entry _ _ _ ih => exact ih.trans (List.prefix_append _ _)

theorem Disk.Tree.met_iff {d : Disk} (ht : d.Tree) {top : Place}
    (hd : d.get? top = some .directory) (names : List Text) :
    d.Met top (top ++ names) ↔ d.get? (top ++ names) ≠ none := by
  constructor
  · intro h
    generalize top ++ names = place at h
    cases h with
    | top => simp [hd]
    | entry _ _ stands => simp [stands]
  · intro h
    induction names using List.reverseRecOn with
    | nil => simpa using Disk.Met.top
    | append_singleton before name ih =>
      rw [← List.append_assoc] at h ⊢
      obtain ⟨entry, he⟩ := Option.ne_none_iff_exists'.1 h
      have hparent := ht.parent he
      exact .entry (ih (by simp [hparent])) hparent he

namespace Selection

variable {s : Selection} {d : Disk} {c p : Path} {top : Place} {walk : List Path}

def CanonicalDirectory (d : Disk) (root : Path) : Prop :=
  d.canonicalize root = .ok root ∧ d.isDirectory root

theorem CanonicalDirectory.place {root : Path} (h : CanonicalDirectory d root) :
    ∃ top, root = .ofNames top ∧ Path.AllNames top ∧ d.resolve root = .ok top ∧
      d.get? top = some .directory := by
  obtain ⟨top, hr, hroot⟩ := Disk.canonicalize_eq_ok.1 h.1
  obtain ⟨found, hfound, hdir⟩ := Disk.isDirectory_iff.1 h.2
  obtain rfl : top = found := Except.ok.inj (hr.symm.trans hfound)
  exact ⟨top, hroot, Disk.resolve_names hr, hr, hdir⟩

theorem mem_walked_iff_met (ht : d.Tree) (hn : Path.AllNames top)
    (hr : d.resolve (.ofNames top) = .ok top) (hd : d.get? top = some .directory)
    (hw : walked d (.ofNames top) = .ok walk) :
    p ∈ walk ↔ ∃ place, d.Met top place ∧ p = .ofNames place := by
  rw [mem_walked hw (not_dash hn) hr]
  constructor
  · rintro (rfl | ⟨names, -, hsome, rfl⟩)
    · exact ⟨top, .top, rfl⟩
    · exact ⟨top ++ names, (ht.met_iff hd names).2 hsome, ht.joinAll_entry hsome⟩
  · rintro ⟨place, hmet, rfl⟩
    obtain ⟨names, rfl⟩ := hmet.isPrefix
    have hsome := (ht.met_iff hd names).1 hmet
    by_cases hne : names = []
    · exact .inl (by rw [hne, List.append_nil])
    · exact .inr ⟨names, hne, hsome, (ht.joinAll_entry hsome).symm⟩

/-- The path of a place that was met leads to a file, shows the extension, and no pattern matches
it. -/
def Chooses (s : Selection) (d : Disk) (p : Path) : Prop :=
  d.isFile p ∧ p.shownExtension = some s.extension ∧ ∀ glob ∈ s.excluded, ¬glob.isMatch p.display

theorem selects_iff_met (ht : d.Tree) (hroots : ∀ root ∈ s.roots, CanonicalDirectory d root) :
    s.Selects d c ↔ ∃ root ∈ s.roots, ∃ top place, d.resolve root = .ok top ∧ d.Met top place ∧
      s.Chooses d (.ofNames place) ∧ d.canonicalize (.ofNames place) = .ok c := by
  constructor
  · rintro ⟨root, hroot, walk, hw, p, hp, ha, hc⟩
    obtain ⟨top, rfl, hn, hr, hd⟩ := (hroots root hroot).place
    obtain ⟨place, hmet, rfl⟩ := (mem_walked_iff_met ht hn hr hd hw).1 hp
    exact ⟨_, hroot, top, place, hr, hmet, admits_iff.1 ha, hc⟩
  · rintro ⟨root, hroot, top, place, hr, hmet, ha, hc⟩
    obtain ⟨top', rfl, hn, hr', hd⟩ := (hroots root hroot).place
    obtain rfl : top = top' := Except.ok.inj (hr.symm.trans hr')
    obtain ⟨walk, hw⟩ := walked_of_resolve hr
    refine ⟨_, hroot, walk, hw, _, ?_, admits_iff.2 ha, hc⟩
    exact (mem_walked_iff_met ht hn hr hd hw).2 ⟨place, hmet, rfl⟩

theorem files_by_names {files : List Path} (h : s.files d = .ok files) :
    files.Pairwise fun p q => Artifact.names p < Artifact.names q := by
  refine (pairwise_files h).imp_of_mem ?_
  intro p q hp hq hlt
  obtain ⟨place, -, rfl, hn, -⟩ := ((mem_files h).1 hp).place
  obtain ⟨place', -, rfl, hn', -⟩ := ((mem_files h).1 hq).place
  rw [Artifact.names_ofNames hn, Artifact.names_ofNames hn']
  exact (Path.compare_ofNames hn hn').1 hlt

theorem selection_is_exact (ht : d.Tree) (hroots : ∀ root ∈ s.roots, CanonicalDirectory d root) :
    ∃ files, s.files d = .ok files ∧
      (files.Pairwise fun p q => Artifact.names p < Artifact.names q) ∧
      (∀ f, f ∈ files ↔ ∃ root ∈ s.roots, ∃ top place, d.resolve root = .ok top ∧
        d.Met top place ∧ s.Chooses d (.ofNames place) ∧
        d.canonicalize (.ofNames place) = .ok f) ∧
      (Text.replacement ∉ s.extension → ∀ p : Path, p.shownExtension = some s.extension ↔
        p.extension = some (Text.spelling s.extension)) := by
  have hwalked : ∀ root ∈ s.roots, ∃ walk, walked d root = .ok walk := by
    intro root hroot
    obtain ⟨top, -, -, hr, -⟩ := (hroots root hroot).place
    exact walked_of_resolve hr
  obtain ⟨files, hfiles⟩ := exists_files hwalked
  refine ⟨files, hfiles, files_by_names hfiles, fun f => ?_, fun hx p => ?_⟩
  · rw [mem_files hfiles, selects_iff_met ht hroots]
  · exact Path.shownExtension_eq_iff hx

/-- Directories whose names are ordered otherwise than their spellings, a directory that is walked
twice, a link into the directory around it, a link to itself, and a link to a file elsewhere. -/
def tangledDisk : Disk where
  entries := [(["s"], .directory), (["s", "z.txt"], .file (Text.bytes "Z")),
    (["s", "t"], .directory), (["s", "t", "a.b"], .directory),
    (["s", "t", "a.b", "y.latte"], .file (Text.bytes "Y")), (["s", "t", "a"], .directory),
    (["s", "t", "a", "x.latte"], .file (Text.bytes "X")), (["s", "t", "a", "up"], .link ".."),
    (["s", "t", "self.latte"], .link "self.latte"), (["s", "t", "z.latte"], .link "../z.txt"),
    (["s", "t", "vendor"], .directory),
    (["s", "t", "vendor", "v.latte"], .file (Text.bytes "V"))]
  workdir := ["s"]
  workdir_names := Disk.allNames_s

theorem tangledDisk_tree : tangledDisk.Tree := Disk.tree_of_entries (by decide) (by decide +kernel)

def tangledSelection : Selection where
  roots := ["/s/t", "/s/t/a"]
  extension := "latte"
  excluded := (Glob.parse "**/vendor/**").toOption.toList

/-- The link to a file elsewhere brings in the file under its own name. -/
def tangledFiles : List Path := ["/s/t/a/x.latte", "/s/t/a.b/y.latte", "/s/z.txt"]

theorem tangledRoots : ∀ root ∈ tangledSelection.roots, CanonicalDirectory tangledDisk root := by
  have hall : ∀ root ∈ tangledSelection.roots,
      (tangledDisk.canonicalize root).toOption = some root ∧ tangledDisk.isDirectory root := by
    decide +kernel
  intro root hroot
  exact ⟨CheckM.ok_of_toOption (hall root hroot).1, (hall root hroot).2⟩

theorem selection_is_exact_tangled : tangledDisk.Tree ∧
    (∀ root ∈ tangledSelection.roots, CanonicalDirectory tangledDisk root) ∧
    tangledSelection.files tangledDisk = .ok tangledFiles ∧
    (tangledFiles.Pairwise fun p q => Artifact.names p < Artifact.names q) ∧
    (¬tangledFiles.Pairwise fun p q => p.text < q.text) ∧
    ∃ root ∈ tangledSelection.roots, ∃ top place, tangledDisk.resolve root = .ok top ∧
      tangledDisk.Met top place ∧ tangledSelection.Chooses tangledDisk (.ofNames place) ∧
      tangledDisk.canonicalize (.ofNames place) = .ok "/s/z.txt" := by
  obtain ⟨files, hfiles, hsorted, hmem, -⟩ := selection_is_exact tangledDisk_tree tangledRoots
  have hvalue : (tangledSelection.files tangledDisk).toOption = some tangledFiles := by
    decide +kernel
  rw [hfiles] at hvalue
  obtain rfl : files = tangledFiles := Option.some.inj hvalue
  refine ⟨tangledDisk_tree, tangledRoots, hfiles, hsorted, by decide +kernel, ?_⟩
  exact (hmem _).1 (by simp [tangledFiles])

/-- A file whose extension is no text. -/
def unreadableDisk : Disk where
  entries := [(["t"], .directory), (["t", "a.\xff"], .file (Text.bytes "A"))]
  workdir := []
  workdir_names := Path.allNames_nil

/-- The file is selected by the extension that is shown, which is not the one that it has. -/
theorem replaced_extension_selected : unreadableDisk.Tree ∧
    CanonicalDirectory unreadableDisk "/t" ∧
    Selection.files ⟨["/t"], "\ufffd", []⟩ unreadableDisk = .ok ["/t/a.\xff"] ∧
    Path.extension "/t/a.\xff" ≠ some (Text.spelling "\ufffd") := by
  have hroot : (unreadableDisk.canonicalize "/t").toOption = some "/t" ∧
      unreadableDisk.isDirectory "/t" := by
    decide +kernel
  refine ⟨Disk.tree_of_entries (by decide) (by decide +kernel),
    ⟨CheckM.ok_of_toOption hroot.1, hroot.2⟩, CheckM.ok_of_toOption ?_, by decide +kernel⟩
  decide +kernel

end Selection

end TemplateCheck
