import TemplateCheck.Proofs.Union

/-!
The patterns are held against the path that was walked, and the answer is where that path leads. On a
tree the two differ only for a link. So a pattern keeps out every entry that it matches, but not a
file that it matches and that a link with another name leads to.
-/
namespace TemplateCheck.Discovery

open CheckM

variable {d : Disk} {dirs : List Path} {dir c p : Path} {extension : Text} {exclude : List Text}
  {place : Place} {w w' : World} {discovery : Discovery}

/-- An entry below one of the directories passes the tests and leads to a file. -/
def Passes (d : Disk) (dirs : List Path) (extension : Text) (exclude : List Text) (place : Place)
    (c : Path) : Prop :=
  ∃ dir ∈ dirs, ∃ top names, directory? d dir = some (Path.ofNames top) ∧ names ≠ [] ∧
    place = top ++ names ∧ d.get? place ≠ none ∧ d.isFile (Path.ofNames place) ∧
    (Path.ofNames place).shownExtension = some extension ∧ ¬Excluded exclude (Path.ofNames place) ∧
    d.canonicalize (Path.ofNames place) = .ok c

theorem contributes_iff (ht : d.Tree) {top : Place} (hd : directory? d dir = some (Path.ofNames top))
    (hn : Path.AllNames top) : Contributes d extension exclude (Path.ofNames top) c ↔
      ∃ names, names ≠ [] ∧ d.get? (top ++ names) ≠ none ∧ d.isFile (Path.ofNames (top ++ names)) ∧
        (Path.ofNames (top ++ names)).shownExtension = some extension ∧
        ¬Excluded exclude (Path.ofNames (top ++ names)) ∧
        d.canonicalize (Path.ofNames (top ++ names)) = .ok c := by
  obtain ⟨place, he, hplace, hr, hdir⟩ := directory_place ht hd
  obtain rfl := Path.ofNames_injective hn hplace he
  constructor
  · rintro ⟨walk, hw, p, hp, hfile, hext, hnot, hc⟩
    rcases (Selection.mem_walked hw (Selection.not_dash hn) hr).1 hp with
      rfl | ⟨names, hne, hsome, rfl⟩
    · obtain ⟨found, body, hr', hf⟩ := Disk.isFile_iff.1 hfile
      obtain rfl : top = found := Except.ok.inj (hr.symm.trans hr')
      simp [hdir] at hf
    · rw [ht.joinAll_entry hsome] at hfile hext hnot hc
      exact ⟨names, hne, hsome, hfile, hext, hnot, hc⟩
  · rintro ⟨names, hne, hsome, htests⟩
    obtain ⟨walk, hw⟩ := Selection.walked_of_resolve hr
    refine ⟨walk, hw, _, ?_, htests⟩
    rw [Selection.mem_walked hw (Selection.not_dash hn) hr]
    exact .inr ⟨names, hne, hsome, (ht.joinAll_entry hsome).symm⟩

theorem mem_files_iff_passes (ht : w.disk.Tree)
    (h : run dirs extension exclude w = .ok discovery w') :
    c ∈ discovery.files ↔ ∃ place, Passes w.disk dirs extension exclude place c := by
  rw [mem_files_iff h]
  constructor
  · rintro ⟨dir, hdir, directory, hd, hc⟩
    obtain ⟨top, rfl, hn, -, -⟩ := directory_place ht hd
    obtain ⟨names, hne, hpasses⟩ := (contributes_iff ht hd hn).1 hc
    exact ⟨top ++ names, dir, hdir, top, names, hd, hne, rfl, hpasses⟩
  · rintro ⟨place, dir, hdir, top, names, hd, hne, rfl, hpasses⟩
    have hn : Path.AllNames top := by
      obtain ⟨entry, hentry⟩ := Option.ne_none_iff_exists'.1 hpasses.1
      exact (Path.allNames_append.1 (ht.named hentry)).1
    exact ⟨dir, hdir, _, hd, (contributes_iff ht hd hn).2 ⟨names, hne, hpasses⟩⟩

theorem resolve_entry (ht : d.Tree) {entry : Entry} (he : d.get? place = some entry)
    (hl : ∀ target, entry ≠ .link target) {found : Place}
    (hr : d.resolve (Path.ofNames place) = .ok found) : found = place := by
  by_cases hne : place = []
  · subst hne
    exact Except.ok.inj (hr.symm.trans (Disk.resolve_root d))
  · have hn := ht.named he
    have hentry : d.get? ([] ++ place) = some entry := he
    have hwalk := ht.descend hentry hne hl
    rw [List.nil_append] at hwalk
    have hfollow := (Disk.resolve_eq_ok.1 hr).2
    have hstart : Disk.startOf d.workdir (Path.ofNames place) = [] := by simp [Disk.startOf]
    rw [hstart, Path.segments_ofNames hn hne,
      Disk.follow_arrived (by rw [Disk.descend_silent (by decide), hwalk])] at hfollow
    exact (Except.ok.inj hfollow).symm

theorem Passes.spelled_or_link (ht : d.Tree) (h : Passes d dirs extension exclude place c) :
    c = Path.ofNames place ∨ ∃ target, d.get? place = some (.link target) := by
  obtain ⟨-, -, -, -, -, -, -, hsome, -, -, -, hc⟩ := h
  obtain ⟨found, hr, rfl⟩ := Disk.canonicalize_eq_ok.1 hc
  obtain ⟨entry, he⟩ := Option.ne_none_iff_exists'.1 hsome
  cases entry with
  | link target => exact .inr ⟨target, he⟩
  | directory => exact .inl (by rw [resolve_entry ht he (by simp) hr])
  | file body => exact .inl (by rw [resolve_entry ht he (by simp) hr])

theorem excluded_file_behind_link (ht : w.disk.Tree) (hglobs : ValidGlobs exclude)
    (dirs : List Path) (extension : Text) :
    ∃ discovery w', run dirs extension exclude w = .ok discovery w' ∧
      ∀ c, Excluded exclude c → (c ∈ discovery.files ↔ ∃ place target,
        w.disk.get? place = some (.link target) ∧
          Passes w.disk dirs extension exclude place c) := by
  obtain ⟨discovery, w', h⟩ := exists_run hglobs dirs extension w
  refine ⟨discovery, w', h, fun c hc => ?_⟩
  rw [mem_files_iff_passes ht h]
  constructor
  · rintro ⟨place, hpasses⟩
    rcases hpasses.spelled_or_link ht with rfl | ⟨target, hlink⟩
    · -- under its own path an excluded file does not pass
      obtain ⟨-, -, -, -, -, -, -, -, -, -, hnot, -⟩ := hpasses
      exact absurd hc hnot
    · exact ⟨place, target, hlink, hpasses⟩
  · rintro ⟨place, -, -, hpasses⟩
    exact ⟨place, hpasses⟩

def vendorDisk : Disk where
  entries := [(["s"], .directory), (["s", "t"], .directory), (["s", "t", "vendor"], .directory),
    (["s", "t", "vendor", "c.latte"], .file (Text.bytes "C")),
    (["s", "t", "a.latte"], .link "vendor/c.latte")]
  workdir := ["s"]
  workdir_names := Disk.allNames_s

def vendorFile : Path := "/s/t/vendor/c.latte"

theorem vendorDisk_tree : vendorDisk.Tree := Disk.tree_of_entries (by decide) (by decide +kernel)

theorem vendorDisk_files : ∃ discovery w,
    run ["t"] "latte" ["**/vendor/**"] { disk := vendorDisk } = .ok discovery w ∧
      discovery.files = [vendorFile] := by
  have hfiles : outcome? (fun discovery _ => discovery.files)
      (run ["t"] "latte" ["**/vendor/**"] { disk := vendorDisk }) = some [vendorFile] := by
    decide +kernel
  exact exists_of_outcome hfiles

theorem excluded_vendor : Excluded ["**/vendor/**"] vendorFile := by
  obtain ⟨glob, hg⟩ := validGlobs_vendor _ (List.mem_singleton_self _)
  refine ⟨_, List.mem_singleton_self _, glob, hg, ?_⟩
  have hmatch : (Glob.parse "**/vendor/**").toOption.map
      (fun glob => glob.isMatch vendorFile.display) = some true := by
    decide +kernel
  rw [hg] at hmatch
  exact Option.some.inj hmatch

theorem excluded_file_behind_link_vendor : vendorDisk.Tree ∧ ValidGlobs ["**/vendor/**"] ∧
    Excluded ["**/vendor/**"] vendorFile ∧
    ∃ place target, vendorDisk.get? place = some (.link target) ∧
      Passes vendorDisk ["t"] "latte" ["**/vendor/**"] place vendorFile := by
  refine ⟨vendorDisk_tree, validGlobs_vendor, excluded_vendor, ?_⟩
  obtain ⟨discovery, w', h, hiff⟩ := excluded_file_behind_link (w := { disk := vendorDisk })
    vendorDisk_tree validGlobs_vendor ["t"] "latte"
  obtain ⟨other, w'', h', hfiles⟩ := vendorDisk_files
  obtain ⟨rfl, -⟩ := EStateM.Result.ok.inj (h.symm.trans h')
  exact (hiff _ excluded_vendor).1 (hfiles ▸ List.mem_singleton_self _)

theorem excluded_file_found : ∃ discovery w,
    run ["t"] "latte" ["**/vendor/**"] { disk := vendorDisk } = .ok discovery w ∧
      vendorFile ∈ discovery.files ∧
      Excluded ["**/vendor/**"] vendorFile := by
  obtain ⟨discovery, w, h, hfiles⟩ := vendorDisk_files
  exact ⟨discovery, w, h, hfiles ▸ List.mem_singleton_self _, excluded_vendor⟩

end TemplateCheck.Discovery
