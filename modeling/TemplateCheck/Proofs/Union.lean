import Mathlib.Data.List.Sort
import TemplateCheck.Proofs.Selected
import TemplateCheck.Proofs.Tree

/-!
Arguments are looked at one by one. The directories among them are kept once each, in the order in
which they come up, and the rest is skipped. The files are those that each argument would give alone,
so it does not matter in which order the arguments stand, whether one is repeated, whether one leads
nowhere, or whether one lies inside another.
-/
namespace TemplateCheck

instance : Std.Irrefl fun p q : Path => p.compare q = .lt where
  irrefl := by
    intro p hlt
    have heq : p.compare p = .eq := Path.compare_eq_iff.2 (by simp [Path.same])
    simp [heq] at hlt

instance : Std.Antisymm fun p q : Path => p.compare q = .lt where
  antisymm := by
    intro p q hlt hgt
    rw [← Path.compare_gt_iff, hlt] at hgt
    simp at hgt

theorem eraseDups_snoc {α : Type} [DecidableEq α] (xs : List α) (x : α) :
    (xs ++ [x]).eraseDups = if x ∈ xs then xs.eraseDups else xs.eraseDups ++ [x] := by
  rw [List.eraseDups_append]
  by_cases hx : x ∈ xs
  · have hnone : [x].removeAll xs = [] := by simp [List.removeAll, hx]
    rw [if_pos hx, hnone]
    simp
  · have hone : [x].removeAll xs = [x] := by simp [List.removeAll, hx]
    rw [if_neg hx, hone]
    simp [List.eraseDups_cons]

theorem nodup_eraseDups {α : Type} [DecidableEq α] (xs : List α) : xs.eraseDups.Nodup := by
  induction xs using List.reverseRecOn with
  | nil => simp
  | append_singleton before x ih =>
    rw [eraseDups_snoc]
    split
    · exact ih
    · next hx =>
      rw [List.nodup_append]
      refine ⟨ih, by simp, ?_⟩
      rintro y hy z hz rfl
      rw [List.mem_singleton] at hz
      subst hz
      exact hx (List.mem_eraseDups.1 hy)

namespace Selection

variable {s : Selection} {d : Disk} {root p : Path} {place : Place} {walk files : List Path}

theorem exists_mapM {ε α β : Type} {f : α → Except ε β} {xs : List α}
    (h : ∀ x ∈ xs, ∃ y, f x = .ok y) : ∃ ys, xs.mapM f = .ok ys := by
  induction xs with
  | nil => exact ⟨[], rfl⟩
  | cons x rest ih =>
    rw [List.forall_mem_cons] at h
    obtain ⟨y, hy⟩ := h.1
    obtain ⟨ys, hys⟩ := ih h.2
    refine ⟨y :: ys, ?_⟩
    simp [List.mapM_cons, hy, hys, bind, Except.bind, pure, Except.pure]

theorem exists_files (h : ∀ root ∈ s.roots, ∃ walk, walked d root = .ok walk) :
    ∃ files, s.files d = .ok files := by
  have hunder : ∀ root ∈ s.roots, ∃ paths, s.under d root = .ok paths := by
    intro root hroot
    obtain ⟨walk, hw⟩ := h root hroot
    rw [under, hw]
    apply exists_mapM
    intro p hp
    obtain ⟨place, body, hr, -⟩ := Disk.isFile_iff.1 (isFile_of_admits (List.mem_filter.1 hp).2)
    have hc : d.canonicalize p = .ok (Path.ofNames place) := Disk.canonicalize_eq_ok.2 ⟨_, hr, rfl⟩
    exact ⟨_, by rw [hc]⟩
  obtain ⟨found, hfound⟩ := exists_mapM hunder
  exact ⟨_, by rw [Selection.files, hfound]⟩

theorem pairwise_files (h : s.files d = .ok files) :
    files.Pairwise fun p q => p.compare q = .lt := by
  unfold Selection.files at h
  split at h
  · simp at h
  · exact Except.ok.inj h ▸ pairwise_sorted _

theorem walked_of_resolve (hr : d.resolve root = .ok place) :
    ∃ walk, walked d root = .ok walk := by
  by_cases hdash : root.same ⟨['-']⟩
  · exact ⟨[], by simp [walked, hdash]⟩
  · exact ⟨_, by simp only [walked, hdash, hr]; rfl⟩

/-- The paths that are walked from a root spell the entries below the place it leads to. -/
theorem mem_walked (hw : walked d root = .ok walk) (hdash : root.same ⟨['-']⟩ = false)
    (hr : d.resolve root = .ok place) :
    p ∈ walk ↔ p = root ∨
      ∃ names, names ≠ [] ∧ d.get? (place ++ names) ≠ none ∧ p = root.joinAll names := by
  simp only [walked, hdash, hr, Bool.false_eq_true, if_false, Except.ok.injEq] at hw
  subst hw
  rw [List.mem_cons, List.mem_map]
  constructor
  · rintro (rfl | ⟨⟨names, entry⟩, hbelow, rfl⟩)
    · exact .inl rfl
    · obtain ⟨⟨q, e⟩, hq, he⟩ := List.mem_filterMap.1 hbelow
      simp only [Option.ite_none_right_eq_some, Bool.and_eq_true, List.isPrefixOf_iff_prefix,
        decide_eq_true_eq, Option.some.injEq, Prod.mk.injEq] at he
      obtain ⟨⟨⟨more, rfl⟩, hlength⟩, hdrop, -⟩ := he
      rw [List.drop_left] at hdrop
      subst hdrop
      have hne : more ≠ [] := by
        rintro rfl
        simp at hlength
      refine .inr ⟨more, hne, ?_, rfl⟩
      rw [Disk.get?_of_ne_nil (by simp [hne]), ne_eq, List.lookup_eq_none_iff]
      intro hall
      have hother := hall _ hq
      simp at hother
  · rintro (rfl | ⟨names, hne, hsome, rfl⟩)
    · exact .inl rfl
    · obtain ⟨entry, he⟩ := Option.ne_none_iff_exists'.1 hsome
      exact .inr ⟨(names, entry), Disk.mem_below hne he, rfl⟩

end Selection

namespace Discovery

open CheckM

variable {d : Disk} {dirs dirs' : List Path} {dir c p : Path} {extension : Text}
  {exclude : List Text} {w w' : World} {discovery discovery' : Discovery}

/-- The canonical path of an argument that leads to a directory. -/
def directory? (d : Disk) (dir : Path) : Option Path :=
  match d.canonicalize dir with
  | .ok canonical => if d.isDirectory canonical then some canonical else none
  | .error _ => none

theorem directory?_eq_some : directory? d dir = some c ↔
    d.canonicalize dir = .ok c ∧ d.isDirectory c := by
  unfold directory?
  cases d.canonicalize dir with
  | error fault => simp
  | ok canonical =>
    simp only [Option.ite_none_right_eq_some, Option.some.injEq, Except.ok.injEq]
    constructor
    · rintro ⟨hd, rfl⟩
      exact ⟨rfl, hd⟩
    · rintro ⟨rfl, hd⟩
      exact ⟨hd, rfl⟩

theorem resolveOne_of_some (h : directory? d dir = some c) : resolveOne d dir = .directory c := by
  obtain ⟨hc, hd⟩ := directory?_eq_some.1 h
  simp [resolveOne, hc, hd]

theorem resolveOne_of_none (h : directory? d dir = none) :
    ∃ reason, resolveOne d dir = .skipped reason := by
  unfold directory? at h
  unfold resolveOne
  cases hc : d.canonicalize dir with
  | error fault => exact ⟨_, rfl⟩
  | ok canonical =>
    have hd : d.isDirectory canonical = false := by simpa [hc] using h
    exact ⟨_, by simp [hd]; rfl⟩

def directoriesOf (d : Disk) (dirs : List Path) : List Path :=
  (dirs.filterMap (directory? d)).eraseDups

def skippedOf (d : Disk) (dirs : List Path) : List Path :=
  dirs.filter fun dir => (directory? d dir).isNone

theorem mem_directoriesOf : c ∈ directoriesOf d dirs ↔ ∃ dir ∈ dirs, directory? d dir = some c := by
  rw [directoriesOf, List.mem_eraseDups, List.mem_filterMap]

theorem go_of_some {rest found skipped : List Path} (h : directory? w.disk dir = some c) :
    resolve.go (dir :: rest) found skipped w =
      resolve.go rest (if c ∈ found then found else found ++ [c]) skipped w := by
  rw [resolve.go, readDisk_bind, resolveOne_of_some h]

theorem go_of_none (h : directory? w.disk dir = none) (rest found skipped : List Path) :
    ∃ w₁, Quiet w w₁ ∧ resolve.go (dir :: rest) found skipped w =
      resolve.go rest found (skipped ++ [dir]) w₁ := by
  obtain ⟨reason, hr⟩ := resolveOne_of_none h
  rw [resolve.go, readDisk_bind, hr]
  exact ⟨{ w with log := w.log.push ⟨.warn, .discovery, "Skipping " ++ dir.display ++ ": " ++ reason⟩ },
    ⟨rfl, rfl⟩, rfl⟩

/-- What the loop over the arguments has gathered after some of them. -/
theorem go_gathers (before dirs : List Path) (hd : w.disk = d) :
    ∃ w', resolve.go dirs (directoriesOf d before) (skippedOf d before) w =
      .ok (directoriesOf d (before ++ dirs), skippedOf d (before ++ dirs)) w' ∧ Quiet w w' := by
  induction dirs generalizing before w with
  | nil => exact ⟨w, by rw [List.append_nil]; rfl, .refl w⟩
  | cons dir rest ih =>
    rw [List.append_cons]
    cases hdir : directory? d dir with
    | some path =>
      have hskipped : skippedOf d (before ++ [dir]) = skippedOf d before := by
        simp [skippedOf, hdir]
      have hfound : directoriesOf d (before ++ [dir]) =
          if path ∈ directoriesOf d before then directoriesOf d before
          else directoriesOf d before ++ [path] := by
        simp only [directoriesOf, List.filterMap_append, List.filterMap_cons, hdir,
          List.filterMap_nil, eraseDups_snoc, List.mem_eraseDups]
      rw [go_of_some (hd ▸ hdir), ← hfound, ← hskipped]
      exact ih (before ++ [dir]) hd
    | none =>
      have hskipped : skippedOf d (before ++ [dir]) = skippedOf d before ++ [dir] := by
        simp [skippedOf, hdir]
      have hfound : directoriesOf d (before ++ [dir]) = directoriesOf d before := by
        simp [directoriesOf, hdir]
      obtain ⟨w₁, hq, hgo⟩ := go_of_none (hd ▸ hdir) rest (directoriesOf d before)
        (skippedOf d before)
      rw [hgo, ← hfound, ← hskipped]
      obtain ⟨w', hrest, hq'⟩ := ih (before ++ [dir]) (hq.disk.trans hd)
      exact ⟨w', hrest, hq.trans hq'⟩

theorem resolve_eq (dirs : List Path) (w : World) :
    ∃ w', resolve dirs w = .ok (directoriesOf w.disk dirs, skippedOf w.disk dirs) w' ∧
      Quiet w w' :=
  go_gathers [] dirs rfl

/-- A discovery succeeds as soon as the files can be selected, and is made of its three parts. -/
theorem exists_run_iff : (∃ w', run dirs extension exclude w = .ok discovery w') ↔
    discovery.directories = directoriesOf w.disk dirs ∧
      discovery.skipped = skippedOf w.disk dirs ∧
      select w.disk (directoriesOf w.disk dirs) extension exclude = .ok discovery.files := by
  obtain ⟨w₁, hresolve, hq⟩ :=
    resolve_eq dirs { w with context := w.context.apply (.phase .discovery) }
  have hdisk : w₁.disk = w.disk := hq.disk
  constructor
  · rintro ⟨w', h⟩
    obtain ⟨w₂, hbody, -⟩ := within_eq_ok.1 h
    rw [bind_of_ok hresolve] at hbody
    simp only [readDisk_bind, hdisk] at hbody
    obtain ⟨files, w₃, hf, hbody⟩ := bind_eq_ok.1 hbody
    obtain ⟨_, w₄, -, hbody⟩ := bind_eq_ok.1 hbody
    obtain ⟨rfl, -⟩ := pure_eq_ok.1 hbody
    exact ⟨rfl, rfl, (ofExcept_eq_ok.1 hf).1⟩
  · rintro ⟨hdirectories, hskipped, hselect⟩
    apply Exists.intro
    apply within_ok
    rw [bind_of_ok hresolve]
    simp only [readDisk_bind, hdisk]
    rw [hselect, ← hdirectories, ← hskipped]
    rfl

def ValidGlobs (exclude : List Text) : Prop :=
  ∀ pattern ∈ exclude, ∃ glob, Glob.parse pattern = .ok glob

theorem exists_parseAll (h : ValidGlobs exclude) : ∃ globs, Glob.parseAll exclude = .ok globs := by
  apply Selection.exists_mapM
  intro pattern hp
  obtain ⟨glob, hg⟩ := h pattern hp
  exact ⟨glob, by rw [hg]⟩

theorem walked_of_directory (h : directory? d dir = some c) :
    ∃ walk, Selection.walked d c = .ok walk := by
  obtain ⟨place, hr, -⟩ := Disk.isDirectory_iff.1 (directory?_eq_some.1 h).2
  exact Selection.walked_of_resolve hr

theorem exists_select (h : ValidGlobs exclude) (d : Disk) (dirs : List Path) (extension : Text) :
    ∃ files, select d (directoriesOf d dirs) extension exclude = .ok files := by
  unfold select
  split
  · exact ⟨[], rfl⟩
  · obtain ⟨globs, hg⟩ := exists_parseAll h
    simp only [hg]
    apply Selection.exists_files
    intro root hroot
    obtain ⟨dir, -, hd⟩ := mem_directoriesOf.1 hroot
    exact walked_of_directory hd

theorem exists_run (h : ValidGlobs exclude) (dirs : List Path) (extension : Text) (w : World) :
    ∃ discovery w', run dirs extension exclude w = .ok discovery w' := by
  obtain ⟨files, hf⟩ := exists_select h w.disk dirs extension
  exact ⟨⟨_, _, files⟩, exists_run_iff.2 ⟨rfl, rfl, hf⟩⟩

def Contributes (d : Disk) (extension : Text) (exclude : List Text) (directory c : Path) : Prop :=
  ∃ walk, Selection.walked d directory = .ok walk ∧ ∃ p ∈ walk, d.isFile p ∧
    p.shownExtension = some extension ∧ ¬Excluded exclude p ∧ d.canonicalize p = .ok c

theorem mem_select {directories files : List Path}
    (h : select d directories extension exclude = .ok files) :
    c ∈ files ↔ ∃ directory ∈ directories, Contributes d extension exclude directory c := by
  unfold select at h
  split at h
  · next he =>
    obtain rfl : directories = [] := by simpa using he
    obtain rfl : [] = files := Except.ok.inj h
    simp
  · split at h
    · simp at h
    · next globs hg =>
      have hexcluded : ∀ p : Path, (∀ glob ∈ globs, ¬glob.isMatch p.display) ↔ ¬Excluded exclude p := by
        intro p
        constructor
        · rintro hall ⟨pattern, hp, glob, hparse, hm⟩
          exact hall glob ((parseAll_eq_ok hg).2 ⟨pattern, hp, hparse⟩) hm
        · intro hnot glob hglob hm
          obtain ⟨pattern, hp, hparse⟩ := (parseAll_eq_ok hg).1 hglob
          exact hnot ⟨pattern, hp, glob, hparse, hm⟩
      rw [Selection.mem_files h]
      simp only [Selection.Selects, Selection.admits_iff, hexcluded, Contributes, and_assoc]

theorem pairwise_select {directories files : List Path}
    (h : select d directories extension exclude = .ok files) :
    files.Pairwise fun p q => p.compare q = .lt := by
  unfold select at h
  split at h
  · exact Except.ok.inj h ▸ List.Pairwise.nil
  · split at h
    · simp at h
    · exact Selection.pairwise_files h

theorem mem_files_iff (h : run dirs extension exclude w = .ok discovery w') :
    c ∈ discovery.files ↔ ∃ dir ∈ dirs, ∃ directory, directory? w.disk dir = some directory ∧
      Contributes w.disk extension exclude directory c := by
  obtain ⟨-, -, hselect⟩ := exists_run_iff.1 ⟨w', h⟩
  rw [mem_select hselect]
  simp only [mem_directoriesOf]
  constructor
  · rintro ⟨directory, ⟨dir, hdir, hd⟩, hc⟩
    exact ⟨dir, hdir, directory, hd, hc⟩
  · rintro ⟨dir, hdir, directory, hd, hc⟩
    exact ⟨directory, ⟨dir, hdir, hd⟩, hc⟩

/-- An argument that leads to a directory at or below the one that another leads to. -/
def Inside (d : Disk) (dir outer : Path) : Prop :=
  ∃ directory names, Path.AllNames names ∧ directory? d outer = some directory ∧
    directory? d dir = some (directory.joinAll names)

theorem directory_place (ht : d.Tree) (h : directory? d dir = some c) :
    ∃ place, c = Path.ofNames place ∧ Path.AllNames place ∧ d.resolve c = .ok place ∧
      d.get? place = some .directory := by
  obtain ⟨hc, hd⟩ := directory?_eq_some.1 h
  obtain ⟨place, hr, rfl⟩ := Disk.canonicalize_eq_ok.1 hc
  obtain ⟨found, hfound, hdir⟩ := Disk.isDirectory_iff.1 hd
  have hworkdir : d.Paved [] d.workdir := ht.paved_of_directory (by simpa using ht.workdir)
  have hplace := Disk.resolve_canonical hworkdir hr (Disk.resolve_eq_ok.1 hfound).1
  obtain rfl : place = found := Except.ok.inj (hplace.symm.trans hfound)
  exact ⟨place, rfl, Disk.resolve_names hr, hplace, hdir⟩

/-- What a directory contributes, a directory around it contributes too: the files below are walked by
the same spelling. -/
theorem Contributes.outer (ht : d.Tree) {outer : Path} {names : List Text}
    (ho : directory? d outer = some p) (hn : Path.AllNames names)
    (hd : directory? d dir = some (p.joinAll names))
    (h : Contributes d extension exclude (p.joinAll names) c) : Contributes d extension exclude p c := by
  obtain ⟨place, rfl, hplace, hr, hdir⟩ := directory_place ht ho
  obtain ⟨inner, he, hinner, hri, hdi⟩ := directory_place ht hd
  rw [Path.joinAll_ofNames hplace hn] at he
  obtain rfl := Path.ofNames_injective (by simp [hplace, hn]) hinner he
  obtain ⟨walk, hw, q, hq, hfile, hext, hnot, hc⟩ := h
  rw [Path.joinAll_ofNames hplace hn] at hw hri
  obtain ⟨walk', hw'⟩ := Selection.walked_of_resolve hr
  refine ⟨walk', hw', q, ?_, hfile, hext, hnot, hc⟩
  rw [Selection.mem_walked hw' (Selection.not_dash hplace) hr]
  rcases (Selection.mem_walked hw (Selection.not_dash hinner) hri).1 hq with
    rfl | ⟨more, hne, hsome, rfl⟩
  · obtain ⟨found, body, hr', hf⟩ := Disk.isFile_iff.1 hfile
    obtain rfl : place ++ names = found := Except.ok.inj (hri.symm.trans hr')
    simp [hdi] at hf
  · refine .inr ⟨names ++ more, by simp [hne], by rwa [← List.append_assoc], ?_⟩
    rw [← Path.joinAll_ofNames hplace hn, Path.joinAll, Path.joinAll, Path.joinAll,
      List.foldl_append]

theorem files_subset (ht : w.disk.Tree) (h : run dirs extension exclude w = .ok discovery w')
    {w'' : World} (h' : run dirs' extension exclude w = .ok discovery' w'')
    (hinside : ∀ dir ∈ dirs, dir ∈ discovery.skipped ∨ ∃ outer ∈ dirs', Inside w.disk dir outer) :
    discovery.files ⊆ discovery'.files := by
  intro c hc
  obtain ⟨dir, hdir, directory, hd, hcontributes⟩ := (mem_files_iff h).1 hc
  rw [mem_files_iff h']
  rcases hinside dir hdir with hskipped | ⟨outer, houter, p, names, hn, ho, hi⟩
  · rw [(exists_run_iff.1 ⟨w', h⟩).2.1, skippedOf, List.mem_filter, hd] at hskipped
    simp at hskipped
  · obtain rfl : p.joinAll names = directory := Option.some.inj (hi.symm.trans hd)
    exact ⟨outer, houter, p, ho, hcontributes.outer ht ho hn hi⟩

theorem files_sorted (h : run dirs extension exclude w = .ok discovery w') :
    discovery.files.Pairwise fun p q => p.compare q = .lt :=
  pairwise_select (exists_run_iff.1 ⟨w', h⟩).2.2

/-- What a discovery is made of, in terms of its arguments one by one. -/
structure IsUnion (w : World) (dirs : List Path) (extension : Text) (exclude : List Text)
    (discovery : Discovery) : Prop where
  directories : discovery.directories = (dirs.filterMap (directory? w.disk)).eraseDups
  nodup : discovery.directories.Nodup
  skipped : discovery.skipped = dirs.filter fun dir => (directory? w.disk dir).isNone
  sorted : discovery.files.Pairwise fun p q => p.compare q = .lt
  files : ∀ c, c ∈ discovery.files ↔ ∃ dir ∈ dirs, ∃ alone w',
    run [dir] extension exclude w = .ok alone w' ∧ c ∈ alone.files
  /-- With other arguments no file is lost, if each directory lies at or below one of theirs. -/
  kept : w.disk.Tree → ∀ {dirs' discovery' w'}, run dirs' extension exclude w = .ok discovery' w' →
    (∀ dir ∈ dirs, dir ∈ discovery.skipped ∨ ∃ outer ∈ dirs', Inside w.disk dir outer) →
    discovery.files ⊆ discovery'.files
  /-- And none is gained either, if that holds the other way round as well. -/
  unchanged : w.disk.Tree → ∀ {dirs' discovery' w'},
    run dirs' extension exclude w = .ok discovery' w' →
    (∀ dir ∈ dirs, dir ∈ discovery.skipped ∨ ∃ outer ∈ dirs', Inside w.disk dir outer) →
    (∀ dir ∈ dirs', dir ∈ discovery'.skipped ∨ ∃ outer ∈ dirs, Inside w.disk dir outer) →
    discovery'.files = discovery.files

theorem discovery_is_union (hglobs : ValidGlobs exclude) (dirs : List Path) (extension : Text)
    (w : World) : ∃ discovery w', run dirs extension exclude w = .ok discovery w' ∧
      IsUnion w dirs extension exclude discovery := by
  obtain ⟨discovery, w', h⟩ := exists_run hglobs dirs extension w
  obtain ⟨hdirectories, hskipped, -⟩ := exists_run_iff.1 ⟨w', h⟩
  refine ⟨discovery, w', h, hdirectories, hdirectories ▸ nodup_eraseDups _, hskipped,
    files_sorted h, ?_, ?_, ?_⟩
  · intro c
    rw [mem_files_iff h]
    constructor
    · rintro ⟨dir, hdir, directory, hd, hc⟩
      obtain ⟨alone, w₁, halone⟩ := exists_run hglobs [dir] extension w
      refine ⟨dir, hdir, alone, w₁, halone, (mem_files_iff halone).2 ?_⟩
      exact ⟨dir, List.mem_singleton_self dir, directory, hd, hc⟩
    · rintro ⟨dir, hdir, alone, w₁, halone, hc⟩
      obtain ⟨dir', hdir', directory, hd, hc⟩ := (mem_files_iff halone).1 hc
      obtain rfl := List.mem_singleton.1 hdir'
      exact ⟨dir', hdir, directory, hd, hc⟩
  · intro ht dirs' discovery' w₁ h' hinside
    exact files_subset ht h h' hinside
  · intro ht dirs' discovery' w₁ h' hinside houtside
    have hkept := files_subset ht h h' hinside
    have hgained := files_subset ht h' h houtside
    exact (files_sorted h').eq_of_mem_iff (files_sorted h) fun c => ⟨@hgained c, @hkept c⟩

/-- A directory inside another one, a link to it, an argument that leads nowhere and one that is given
twice. -/
def overlapDisk : Disk where
  entries := [(["s"], .directory), (["s", "t"], .directory),
    (["s", "t", "a.latte"], .file (Text.bytes "A")), (["s", "t", "sub"], .directory),
    (["s", "t", "sub", "b.latte"], .file (Text.bytes "B")), (["s", "t", "vendor"], .directory),
    (["s", "t", "vendor", "c.latte"], .file (Text.bytes "C")), (["s", "l"], .link "t/sub")]
  workdir := ["s"]
  workdir_names := Disk.allNames_s

theorem overlapDisk_tree : overlapDisk.Tree := Disk.tree_of_entries (by decide) (by decide +kernel)

theorem validGlobs_vendor : ValidGlobs ["**/vendor/**"] := by
  intro pattern hp
  obtain rfl := List.mem_singleton.1 hp
  exact ⟨_, rfl⟩

theorem discovery_is_union_overlap : overlapDisk.Tree ∧ ValidGlobs ["**/vendor/**"] ∧
    ∃ discovery w', run ["t/sub", "gone", "t", "l", "t"] "latte" ["**/vendor/**"]
        { disk := overlapDisk } = .ok discovery w' ∧
      IsUnion { disk := overlapDisk } ["t/sub", "gone", "t", "l", "t"] "latte" ["**/vendor/**"]
        discovery ∧
      discovery = ⟨["/s/t/sub", "/s/t"], ["gone"], ["/s/t/a.latte", "/s/t/sub/b.latte"]⟩ := by
  obtain ⟨discovery, w', h, hunion⟩ := discovery_is_union validGlobs_vendor
    ["t/sub", "gone", "t", "l", "t"] "latte" { disk := overlapDisk }
  refine ⟨overlapDisk_tree, validGlobs_vendor, discovery, w', h, hunion, ?_⟩
  have hvalue : outcome? (fun discovery _ => discovery)
      (run ["t/sub", "gone", "t", "l", "t"] "latte" ["**/vendor/**"] { disk := overlapDisk }) =
        some ⟨["/s/t/sub", "/s/t"], ["gone"], ["/s/t/a.latte", "/s/t/sub/b.latte"]⟩ := by
    decide +kernel
  rw [h] at hvalue
  exact Option.some.inj hvalue

end Discovery

end TemplateCheck
