import Mathlib.Data.List.Induction
import TemplateCheck.Discovery
import TemplateCheck.Proofs.Computation
import TemplateCheck.Proofs.Mirror

/-!
A selection is a list of canonical paths, strictly increasing and so without repetition. Each of them
is where some walked path leads that was admitted, and no admitted path is missing. On a disk without
links the walked path and the canonical one end in the same name, so the extension that was asked for
is still shown.
-/
namespace TemplateCheck

open Std

private theorem transCmp_on {α β : Type} {c : β → β → Ordering} [TransCmp c] (f : α → β) :
    TransCmp fun a b => c (f a) (f b) where
  eq_swap := OrientedCmp.eq_swap
  isLE_trans := TransCmp.isLE_trans

theorem Text.compare_eq_compareLex (s t : Text) :
    Text.compare s t = List.compareLex Ord.compare (s.map Char.toNat) (t.map Char.toNat) := by
  induction s generalizing t with
  | nil => cases t <;> rfl
  | cons a s ih =>
    cases t with
    | nil => rfl
    | cons b t =>
      rw [Text.compare, List.map_cons, List.map_cons, List.compareLex_cons_cons, ← ih]
      rcases Nat.lt_trichotomy a.toNat b.toNat with h | h | h
      · simp [h, Nat.compare_eq_lt.2 h]
      · simp [h]
      · simp [h, Nat.not_lt_of_gt h, Nat.compare_eq_gt.2 h]

instance : TransCmp Text.compare := by
  rw [funext₂ Text.compare_eq_compareLex]
  exact transCmp_on _

instance : LawfulEqCmp Text.compare where
  compare_self := by
    intro s
    rw [Text.compare_eq_compareLex]
    exact ReflCmp.compare_self
  eq_of_compare := by
    intro s t h
    rw [Text.compare_eq_compareLex] at h
    exact List.map_injective_iff.2 (fun _ _ h => Char.toNat_inj.1 h) (LawfulEqCmp.eq_of_compare h)

theorem Component.compare_eq_then (a b : Component) : a.compare b =
    compareLex (compareOn Component.rank)
      (fun a b => Text.compare (a.normal?.getD []) (b.normal?.getD [])) a b := by
  cases a <;> cases b <;> rfl

instance : TransCmp Component.compare := by
  have : TransCmp fun a b : Component => Text.compare (a.normal?.getD []) (b.normal?.getD []) :=
    transCmp_on _
  rw [funext₂ Component.compare_eq_then]
  infer_instance

instance : LawfulEqCmp Component.compare where
  compare_self := by
    intro a
    exact ReflCmp.compare_self
  eq_of_compare := by
    intro a b h
    rw [Component.compare_eq_then] at h
    obtain ⟨hrank, hname⟩ := Ordering.then_eq_eq.1 h
    have hrank : a.rank = b.rank := LawfulEqCmp.eq_of_compare hrank
    have hname : a.normal?.getD [] = b.normal?.getD [] := LawfulEqCmp.eq_of_compare hname
    cases a <;> cases b <;> simp_all [Component.rank, Component.normal?]

namespace Path

variable {p q r : Path}

theorem compare_eq_compareLex (p q : Path) :
    p.compare q = List.compareLex Component.compare p.components q.components := by
  rw [compare]
  generalize p.components = ps
  generalize q.components = qs
  induction ps generalizing qs with
  | nil => cases qs <;> rfl
  | cons a ps ih =>
    cases qs with
    | nil => rfl
    | cons b qs => rw [compareComponents, List.compareLex_cons_cons, ih]

theorem compare_eq_iff : p.compare q = .eq ↔ p.same q := by
  rw [compare_eq_compareLex, same, beq_iff_eq]
  exact LawfulEqCmp.compare_eq_iff_eq

theorem compare_lt_trans (h : p.compare q = .lt) (k : q.compare r = .lt) : p.compare r = .lt := by
  rw [compare_eq_compareLex] at h k ⊢
  exact TransCmp.lt_trans h k

theorem compare_gt_iff : p.compare q = .gt ↔ q.compare p = .lt := by
  rw [compare_eq_compareLex, compare_eq_compareLex]
  exact OrientedCmp.gt_iff_lt

end Path

namespace Selection

variable {p q : Path} {paths : List Path}

theorem mem_of_mem_insertPath (h : q ∈ insertPath p paths) : q = p ∨ q ∈ paths := by
  induction paths with
  | nil => simpa [insertPath] using h
  | cons first rest ih =>
    rw [insertPath] at h
    split at h
    · simpa using h
    · exact .inr h
    · rcases List.mem_cons.1 h with rfl | h
      · exact .inr List.mem_cons_self
      · exact (ih h).imp_right (List.mem_cons_of_mem _)

theorem mem_insertPath_of_mem (h : q ∈ paths) : q ∈ insertPath p paths := by
  induction paths with
  | nil => simp at h
  | cons first rest ih =>
    rw [insertPath]
    split
    · exact List.mem_cons_of_mem _ h
    · exact h
    · rcases List.mem_cons.1 h with rfl | h
      · exact List.mem_cons_self
      · exact List.mem_cons_of_mem _ (ih h)

theorem exists_same_insertPath (p : Path) (paths : List Path) :
    ∃ q ∈ insertPath p paths, p.same q := by
  induction paths with
  | nil => exact ⟨p, by simp [insertPath], by simp [Path.same]⟩
  | cons first rest ih =>
    rw [insertPath]
    split
    · exact ⟨p, List.mem_cons_self, by simp [Path.same]⟩
    · next he => exact ⟨first, List.mem_cons_self, Path.compare_eq_iff.1 he⟩
    · obtain ⟨q, hq, hs⟩ := ih
      exact ⟨q, List.mem_cons_of_mem _ hq, hs⟩

theorem pairwise_insertPath (p : Path) (h : paths.Pairwise fun a b => a.compare b = .lt) :
    (insertPath p paths).Pairwise fun a b => a.compare b = .lt := by
  induction paths with
  | nil => simp [insertPath]
  | cons first rest ih =>
    obtain ⟨hfirst, hrest⟩ := List.pairwise_cons.1 h
    rw [insertPath]
    split
    · next hlt =>
      refine List.pairwise_cons.2 ⟨?_, h⟩
      rw [List.forall_mem_cons]
      exact ⟨hlt, fun b hb => Path.compare_lt_trans hlt (hfirst b hb)⟩
    · exact h
    · next hgt =>
      refine List.pairwise_cons.2 ⟨fun b hb => ?_, ih hrest⟩
      rcases mem_of_mem_insertPath hb with rfl | hb
      · exact Path.compare_gt_iff.1 hgt
      · exact hfirst b hb

theorem sorted_induction {P : List Path → List Path → Prop} (nil : P [] [])
    (insert : ∀ {before p done}, P before done → P (before ++ [p]) (insertPath p done))
    (paths : List Path) : P paths (sorted paths) := by
  induction paths using List.reverseRecOn with
  | nil => exact nil
  | append_singleton before p ih =>
    rw [sorted, List.foldl_append]
    exact insert ih

theorem mem_of_mem_sorted (h : q ∈ sorted paths) : q ∈ paths := by
  revert q
  refine sorted_induction (P := fun paths done => ∀ {q}, q ∈ done → q ∈ paths) (by simp) ?_ paths
  intro before p done ih q hq
  rcases mem_of_mem_insertPath hq with rfl | hq
  · simp
  · exact List.mem_append_left _ (ih hq)

theorem exists_same_sorted (h : p ∈ paths) : ∃ q ∈ sorted paths, p.same q := by
  revert p
  refine sorted_induction (P := fun paths done => ∀ {p}, p ∈ paths → ∃ q ∈ done, p.same q)
    (by simp) ?_ paths
  intro before p done ih q hq
  rcases List.mem_append.1 hq with hq | hq
  · obtain ⟨r, hr, hs⟩ := ih hq
    exact ⟨r, mem_insertPath_of_mem hr, hs⟩
  · obtain rfl := List.mem_singleton.1 hq
    exact exists_same_insertPath q done

theorem pairwise_sorted (paths : List Path) :
    (sorted paths).Pairwise fun a b => a.compare b = .lt :=
  sorted_induction (P := fun _ done => done.Pairwise fun a b => a.compare b = .lt) .nil
    (fun ih => pairwise_insertPath _ ih) paths

theorem nodup_sorted (paths : List Path) : (sorted paths).Nodup := by
  refine (pairwise_sorted paths).imp ?_
  rintro a b hlt rfl
  have : a.compare a = .eq := Path.compare_eq_iff.2 (by simp [Path.same])
  simp [this] at hlt

theorem mapM_eq_ok {ε α β : Type} {f : α → Except ε β} {xs : List α} {ys : List β}
    (h : xs.mapM f = .ok ys) :
    (∀ x ∈ xs, ∃ y ∈ ys, f x = .ok y) ∧ ∀ y ∈ ys, ∃ x ∈ xs, f x = .ok y := by
  induction xs generalizing ys with
  | nil =>
    obtain rfl : [] = ys := by simpa [pure, Except.pure] using h
    simp
  | cons x rest ih =>
    rw [List.mapM_cons] at h
    cases hx : f x with
    | error e => simp [hx, bind, Except.bind] at h
    | ok y =>
      cases hr : rest.mapM f with
      | error e => simp [hx, hr, bind, Except.bind] at h
      | ok zs =>
        obtain rfl : y :: zs = ys := by simpa [hx, hr, bind, Except.bind, pure, Except.pure] using h
        obtain ⟨hl, hr⟩ := ih hr
        simp only [List.mem_cons, forall_eq_or_imp, exists_eq_or_imp, hx, true_or, true_and]
        exact ⟨fun x' hx' => .inr (hl x' hx'), fun z hz => .inr (hr z hz)⟩

variable {s : Selection} {d : Disk} {root c : Path} {files walk : List Path}

theorem isFile_of_admits (h : s.admits d p) : d.isFile p := by
  simp only [admits, Bool.and_eq_true] at h
  exact h.1.1

theorem mem_of_mapM {ε δ α β : Type} {f : α → Except δ β} {g : α → Except ε β} {xs : List α}
    {ys : List β} (hfg : ∀ {x y}, f x = .ok y ↔ g x = .ok y) (h : xs.mapM f = .ok ys) {y : β} :
    y ∈ ys ↔ ∃ x ∈ xs, g x = .ok y := by
  obtain ⟨hall, hfrom⟩ := mapM_eq_ok h
  constructor
  · intro hy
    obtain ⟨x, hx, he⟩ := hfrom y hy
    exact ⟨x, hx, hfg.1 he⟩
  · rintro ⟨x, hx, he⟩
    obtain ⟨y', hy', he'⟩ := hall x hx
    rw [hfg.2 he] at he'
    exact Except.ok.inj he' ▸ hy'

theorem under_eq_ok (h : s.under d root = .ok files) :
    ∃ walk, walked d root = .ok walk ∧
      ∀ c, c ∈ files ↔ ∃ p ∈ walk, s.admits d p ∧ d.canonicalize p = .ok c := by
  cases hw : walked d root with
  | error fault => simp [under, hw] at h
  | ok walk =>
    rw [under, hw] at h
    refine ⟨walk, rfl, fun c => ?_⟩
    have hmem := mem_of_mapM (g := d.canonicalize) (y := c) (by
      intro p c
      cases d.canonicalize p <;> simp) h
    simpa [and_assoc] using hmem

/-- Whatever is admitted on the way from a root is selected by its canonical path. -/
def Selects (s : Selection) (d : Disk) (c : Path) : Prop :=
  ∃ root ∈ s.roots, ∃ walk, walked d root = .ok walk ∧
    ∃ p ∈ walk, s.admits d p ∧ d.canonicalize p = .ok c

theorem mem_files (h : s.files d = .ok files) : c ∈ files ↔ s.Selects d c := by
  cases hr : s.roots.mapM (s.under d) with
  | error e => simp [Selection.files, hr] at h
  | ok found =>
    obtain rfl : sorted found.flatten = files := by simpa [Selection.files, hr] using h
    obtain ⟨hall, hfrom⟩ := mapM_eq_ok hr
    have hflat : ∀ {c}, c ∈ found.flatten ↔ s.Selects d c := by
      intro c
      rw [List.mem_flatten]
      constructor
      · rintro ⟨paths, hpaths, hc⟩
        obtain ⟨root, hroot, hu⟩ := hfrom paths hpaths
        obtain ⟨walk, hw, hmem⟩ := under_eq_ok hu
        exact ⟨root, hroot, walk, hw, (hmem c).1 hc⟩
      · rintro ⟨root, hroot, walk, hw, hp⟩
        obtain ⟨paths, hpaths, hu⟩ := hall root hroot
        obtain ⟨walk', hw', hmem⟩ := under_eq_ok hu
        obtain rfl : walk = walk' := Except.ok.inj (hw.symm.trans hw')
        exact ⟨paths, hpaths, (hmem c).2 hp⟩
    refine ⟨fun hc => hflat.1 (mem_of_mem_sorted hc), fun hc => ?_⟩
    -- sorting keeps one spelling of each path, and canonical paths have only one
    obtain ⟨c', hc', hsame⟩ := exists_same_sorted (hflat.2 hc)
    obtain ⟨-, -, -, -, p, -, -, hp⟩ := hc
    obtain ⟨-, -, -, -, p', -, -, hp'⟩ := hflat.1 (mem_of_mem_sorted hc')
    exact (Disk.canonical_same hp hp').1 hsame ▸ hc'

theorem walked_of_files (h : s.files d = .ok files) (hroot : root ∈ s.roots) :
    ∃ walk, walked d root = .ok walk := by
  cases hr : s.roots.mapM (s.under d) with
  | error e => simp [Selection.files, hr] at h
  | ok found =>
    obtain ⟨paths, -, hu⟩ := (mapM_eq_ok hr).1 root hroot
    obtain ⟨walk, hw, -⟩ := under_eq_ok hu
    exact ⟨walk, hw⟩

theorem nodup_files (h : s.files d = .ok files) : files.Nodup := by
  unfold Selection.files at h
  split at h
  · simp at h
  · exact Except.ok.inj h ▸ nodup_sorted _

theorem admits_iff : s.admits d p ↔ d.isFile p ∧ p.shownExtension = some s.extension ∧
    ∀ glob ∈ s.excluded, ¬glob.isMatch p.display := by
  simp [admits, and_assoc]

theorem Selects.place (h : s.Selects d c) :
    ∃ place body, c = Path.ofNames place ∧ Path.AllNames place ∧ place ≠ [] ∧
      d.get? place = some (.file body) := by
  obtain ⟨-, -, -, -, p, -, ha, hc⟩ := h
  obtain ⟨place, hr, rfl⟩ := Disk.canonicalize_eq_ok.1 hc
  obtain ⟨place', body, hr', hf⟩ := Disk.isFile_iff.1 (isFile_of_admits ha)
  obtain rfl : place = place' := Except.ok.inj (hr.symm.trans hr')
  exact ⟨place, body, rfl, Disk.resolve_names hr, by rintro rfl; simp at hf, hf⟩

theorem Selects.extension (hl : Disk.LinkFree d) (h : s.Selects d c) :
    ∃ before stem bytes, stem ≠ [] ∧ '.' ∉ bytes ∧ Path.display ⟨bytes⟩ = s.extension ∧
      Path.AllNames (before ++ [stem ++ '.' :: bytes]) ∧
      c = Path.ofNames (before ++ [stem ++ '.' :: bytes]) := by
  obtain ⟨-, -, -, -, p, -, ha, hc⟩ := h
  obtain ⟨place, hr, rfl⟩ := Disk.canonicalize_eq_ok.1 hc
  obtain ⟨-, he, -⟩ := admits_iff.1 ha
  obtain ⟨bytes, he, hshown⟩ := Option.map_eq_some_iff.1 he
  obtain ⟨name, hn, hs⟩ := Option.bind_eq_some_iff.1 he
  have hnames := Disk.resolve_names hr
  obtain ⟨before, rfl⟩ := hl.resolve_fileName hr hn
  cases hsplit : Path.splitName name with
  | mk stem extension =>
    obtain rfl : extension = some bytes := by simpa [hsplit] using hs
    obtain ⟨rfl, hstem, hdot⟩ := Path.eq_of_splitName hsplit
    exact ⟨before, stem, bytes, hstem, hdot, hshown, hnames, rfl⟩

theorem Selects.shownExtension (hl : Disk.LinkFree d) (h : s.Selects d c) :
    c.shownExtension = some s.extension := by
  obtain ⟨before, stem, bytes, hstem, hdot, hshown, hn, rfl⟩ := h.extension hl
  rw [Path.shownExtension, Artifact.extension_ofNames hstem hdot hn, Option.map_some, hshown]

theorem not_dash {place : Place} (hp : Path.AllNames place) :
    (Path.ofNames place).same ⟨['-']⟩ = false := by
  have hdash : Path.components ⟨['-']⟩ = [.normal ['-']] := by decide
  simp [Path.same, Path.components_ofNames hp, hdash]

theorem resolve_of_files (hl : Disk.LinkFree d) {place : Place} (hp : Path.AllNames place)
    (h : s.files d = .ok files) (hroot : Path.ofNames place ∈ s.roots) :
    d.resolve (Path.ofNames place) = .ok place := by
  obtain ⟨walk, hw⟩ := walked_of_files h hroot
  rw [walked, not_dash hp] at hw
  cases hr : d.resolve (Path.ofNames place) with
  | error fault => simp [hr] at hw
  | ok found => rw [hl.place_of_resolve hp hr]

theorem Selects.of_below (hl : Disk.LinkFree d) {place names : Place} (hp : Path.AllNames place)
    (hn : Path.AllNames names) (hroot : Path.ofNames place ∈ s.roots)
    (hdir : d.resolve (Path.ofNames place) = .ok place)
    (ha : s.admits d ((Path.ofNames place).joinAll names)) :
    s.Selects d ((Path.ofNames place).joinAll names) := by
  have hpn : Path.AllNames (place ++ names) := by simp [hp, hn]
  rw [Path.joinAll_ofNames hp hn] at ha ⊢
  obtain ⟨found, body, hr, hf⟩ := Disk.isFile_iff.1 (isFile_of_admits ha)
  obtain rfl : found = place ++ names := hl.place_of_resolve hpn hr
  refine ⟨_, hroot, _, by rw [walked, not_dash hp, hdir]; rfl, _, ?_, ha,
    Disk.canonicalize_eq_ok.2 ⟨_, hr, rfl⟩⟩
  by_cases hne : names = []
  · simp [hne]
  · refine List.mem_cons_of_mem _ (List.mem_map.2 ⟨(names, .file body), ?_, ?_⟩)
    · exact Disk.mem_below hne hf
    · exact Path.joinAll_ofNames hp hn

end Selection

namespace Discovery

open CheckM

variable {d : Disk} {dirs : List Path} {extension : Text} {exclude : List Text} {w w' : World}
  {discovery : Discovery} {c p : Path}

/-- Whether a pattern of a list excludes a path. -/
def Excluded (exclude : List Text) (p : Path) : Prop :=
  ∃ pattern ∈ exclude, ∃ glob, Glob.parse pattern = .ok glob ∧ glob.isMatch p.display

/-- A file with the extension, below one of the directories and not excluded. -/
def IsTemplate (d : Disk) (dirs : List Path) (extension : Text) (exclude : List Text) (p : Path) :
    Prop :=
  ∃ dir ∈ dirs, ∃ directory, resolveOne d dir = .directory directory ∧
    ∃ names, Path.AllNames names ∧ p = directory.joinAll names ∧ d.isFile p ∧
      p.shownExtension = some extension ∧ ¬Excluded exclude p

theorem resolveOne_eq_directory {directory : Path} (h : resolveOne d p = .directory directory) :
    d.canonicalize p = .ok directory ∧ d.isDirectory directory := by
  cases hc : d.canonicalize p with
  | error fault => simp [resolveOne, hc] at h
  | ok canonical =>
    simp only [resolveOne, hc] at h
    split at h
    · next hd =>
      obtain rfl := Resolved.directory.inj h
      exact ⟨rfl, hd⟩
    · simp at h

theorem go_eq_ok {found skipped : List Path} {result : List Path × List Path}
    (h : resolve.go dirs found skipped w = .ok result w') :
    Quiet w w' ∧ ∀ path, path ∈ result.1 ↔
      path ∈ found ∨ ∃ dir ∈ dirs, resolveOne w.disk dir = .directory path := by
  induction dirs generalizing w found skipped with
  | nil =>
    obtain ⟨rfl, rfl⟩ := pure_eq_ok.1 h
    exact ⟨.refl _, by simp⟩
  | cons dir rest ih =>
    rw [resolve.go, readDisk_bind] at h
    cases hd : resolveOne w.disk dir with
    | directory directory =>
      simp only [hd] at h
      obtain ⟨hq, hmem⟩ := ih h
      refine ⟨hq, fun path => ?_⟩
      by_cases hf : directory ∈ found
      · simp only [hmem, hf, if_true, List.mem_cons, exists_eq_or_imp, hd, Resolved.directory.injEq]
        constructor
        · exact fun h => h.imp_right .inr
        · rintro (h | rfl | h)
          · exact .inl h
          · exact .inl hf
          · exact .inr h
      · simp [hmem, hf, hd, or_assoc, eq_comm]
    | skipped reason =>
      simp only [hd] at h
      obtain ⟨_, w₁, hn, h⟩ := bind_eq_ok.1 h
      have hq := note_eq_ok hn
      obtain ⟨hq', hmem⟩ := ih h
      refine ⟨hq.trans hq', fun path => ?_⟩
      simp [hmem, hd, hq.disk]

theorem parseAll_eq_ok {globs : List Glob} (h : Glob.parseAll exclude = .ok globs) {glob : Glob} :
    glob ∈ globs ↔ ∃ pattern ∈ exclude, Glob.parse pattern = .ok glob := by
  refine Selection.mem_of_mapM ?_ h
  intro pattern glob
  cases Glob.parse pattern <;> simp

theorem select_eq_ok {directories files : List Path}
    (h : select d directories extension exclude = .ok files) :
    files.Nodup ∧ ∃ excluded : List Glob,
      (∀ p : Path, (∃ glob ∈ excluded, glob.isMatch p.display) → Excluded exclude p) ∧
      ∀ c, c ∈ files ↔ Selection.Selects ⟨directories, extension, excluded⟩ d c := by
  unfold select at h
  split at h
  · next he =>
    obtain rfl : [] = files := Except.ok.inj h
    obtain rfl : directories = [] := by simpa using he
    exact ⟨.nil, [], by simp, by simp [Selection.Selects]⟩
  · split at h
    · simp at h
    · next excluded he =>
      refine ⟨Selection.nodup_files h, excluded, ?_, fun c => Selection.mem_files h⟩
      rintro p ⟨glob, hg, hm⟩
      obtain ⟨pattern, hp, hparse⟩ := (parseAll_eq_ok he).1 hg
      exact ⟨pattern, hp, glob, hparse, hm⟩

theorem run_eq_ok (h : run dirs extension exclude w = .ok discovery w') :
    Quiet w w' ∧ (∀ directory, directory ∈ discovery.directories ↔
      ∃ dir ∈ dirs, resolveOne w.disk dir = .directory directory) ∧
      select w.disk discovery.directories extension exclude = .ok discovery.files := by
  obtain ⟨w₁, hbody, rfl⟩ := within_eq_ok.1 h
  obtain ⟨⟨directories, skipped⟩, w₂, hr, hbody⟩ := bind_eq_ok.1 hbody
  simp only [readDisk_bind] at hbody
  obtain ⟨files, w₃, hf, hbody⟩ := bind_eq_ok.1 hbody
  obtain ⟨_, w₄, hn, hbody⟩ := bind_eq_ok.1 hbody
  obtain ⟨rfl, rfl⟩ := pure_eq_ok.1 hbody
  obtain ⟨hfiles, rfl⟩ := ofExcept_eq_ok.1 hf
  obtain ⟨hq, hmem⟩ := go_eq_ok hr
  have hq' := note_eq_ok hn
  rw [hq.disk] at hfiles
  exact ⟨⟨hq'.disk.trans hq.disk, hq'.processes.trans hq.processes⟩, by simpa using hmem, hfiles⟩

theorem nodup_files (h : run dirs extension exclude w = .ok discovery w') : discovery.files.Nodup :=
  (select_eq_ok (run_eq_ok h).2.2).1

theorem file_place (h : run dirs extension exclude w = .ok discovery w')
    (hc : c ∈ discovery.files) : ∃ place body, c = Path.ofNames place ∧ Path.AllNames place ∧
      place ≠ [] ∧ w.disk.get? place = some (.file body) := by
  obtain ⟨-, excluded, -, hmem⟩ := select_eq_ok (run_eq_ok h).2.2
  exact ((hmem c).1 hc).place

theorem file_extension (hl : Disk.LinkFree w.disk)
    (h : run dirs extension exclude w = .ok discovery w') (hc : c ∈ discovery.files) :
    ∃ before stem bytes, stem ≠ [] ∧ '.' ∉ bytes ∧ Path.display ⟨bytes⟩ = extension ∧
      Path.AllNames (before ++ [stem ++ '.' :: bytes]) ∧
      c = Path.ofNames (before ++ [stem ++ '.' :: bytes]) := by
  obtain ⟨-, excluded, -, hmem⟩ := select_eq_ok (run_eq_ok h).2.2
  exact ((hmem c).1 hc).extension hl

theorem shownExtension_of_mem (hl : Disk.LinkFree w.disk)
    (h : run dirs extension exclude w = .ok discovery w') (hc : c ∈ discovery.files) :
    c.shownExtension = some extension := by
  obtain ⟨-, excluded, -, hmem⟩ := select_eq_ok (run_eq_ok h).2.2
  exact ((hmem c).1 hc).shownExtension hl

theorem mem_files_of_isTemplate (hl : Disk.LinkFree w.disk)
    (h : run dirs extension exclude w = .ok discovery w')
    (hp : IsTemplate w.disk dirs extension exclude p) : p ∈ discovery.files := by
  obtain ⟨-, hdirs, hselect⟩ := run_eq_ok h
  obtain ⟨-, excluded, hexcluded, hmem⟩ := select_eq_ok hselect
  obtain ⟨dir, hdir, directory, hresolve, names, hnames, rfl, hfile, hext, hnot⟩ := hp
  obtain ⟨hcanonical, hdirectory⟩ := resolveOne_eq_directory hresolve
  obtain ⟨place, hplace, rfl⟩ := Disk.canonicalize_eq_ok.1 hcanonical
  have hn := Disk.resolve_names hplace
  have hroot : w.disk.resolve (Path.ofNames place) = .ok place := by
    obtain ⟨found, hfound, -⟩ := Disk.isDirectory_iff.1 hdirectory
    rwa [hl.place_of_resolve hn hfound] at hfound
  rw [hmem]
  refine .of_below hl hn hnames ((hdirs _).2 ⟨dir, hdir, hresolve⟩) hroot ?_
  exact Selection.admits_iff.2 ⟨hfile, hext, fun glob hg hm => hnot (hexcluded _ ⟨glob, hg, hm⟩)⟩

end Discovery

end TemplateCheck
