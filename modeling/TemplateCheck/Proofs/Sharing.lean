import Mathlib.Data.List.Pairwise
import TemplateCheck.Proofs.Selected
import TemplateCheck.Proofs.Trace

/-!
The artifact of a template keeps its directory and its stem and nothing else. A template is found by
the extension of the path that was walked, but it is kept by the path that this one leads to, so a
link can bring in a file with another extension beside a template of the same stem. Such files share
an artifact. Without links there are none, unless what was asked for can be shown by more than one
extension.
-/
namespace TemplateCheck

open CheckM Path

namespace Artifact

/-- Two paths in the same directory whose file names have the same stem. -/
def Twins (a b : Path) : Prop :=
  (names a).dropLast = (names b).dropLast ∧ (names a).getLast?.map stem = (names b).getLast?.map stem

def Twinless (files : List Path) : Prop := ∀ a ∈ files, ∀ b ∈ files, Twins a b → a = b

variable {a b root c : Path} {extension : Text} {d : Disk} {place : Place}

theorem Spelled.names_ne_nil (h : Spelled a) : names a ≠ [] := by
  obtain ⟨names, hn, hne, rfl⟩ := h
  rwa [names_ofNames hn]

theorem twinless_iff_pairwise {files : List Path} (h : files.Nodup) :
    Twinless files ↔ files.Pairwise fun a b => ¬Twins a b := by
  constructor
  · intro ht
    exact List.Pairwise.imp_of_mem (fun ha hb hne htwins => hne (ht _ ha _ hb htwins)) h
  · intro hp
    have : Std.Symm fun a b : Path => Twins a b → a = b :=
      ⟨fun a b hab hba => (hab ⟨hba.1.symm, hba.2.symm⟩).symm⟩
    have hpairs : files.Pairwise fun a b => Twins a b → a = b := hp.imp fun hn ht => absurd ht hn
    exact fun a ha b hb => hpairs.forall_of_forall (fun _ _ _ => rfl) ha hb

theorem canonical_artifact (ground : d.Ground root place)
    (hy : Bootstrap.isBareExtension extension) (ha : Spelled a)
    (h : d.canonicalize (path root a extension) = .ok c) :
    c = ofNames (artifactPlace place extension a) := by
  have hn := allNames_mirrored (allNames_names a) hy
  have hne : mirrored (names a) extension ≠ [] := mirrored_ne_nil ha.names_ne_nil
  obtain ⟨found, hfound, rfl⟩ := Disk.canonicalize_eq_ok.1 h
  rw [path_eq ha.names_ne_nil, Disk.resolve_below ground hn hne] at hfound
  rw [Disk.descend_names hn hfound.2, artifactPlace]

theorem same_artifactPlace_iff (hp : AllNames place) (hy : Bootstrap.isBareExtension extension)
    (ha : Spelled a) (hb : Spelled b) :
    (ofNames (artifactPlace place extension a)).same (ofNames (artifactPlace place extension b)) ↔
      Twins a b := by
  obtain ⟨hna, -⟩ := artifactPlace_names hp hy ha
  obtain ⟨hnb, -⟩ := artifactPlace_names hp hy hb
  rw [same_ofNames hna hnb, Twins,
    ← mirrored_eq_iff ha.names_ne_nil hb.names_ne_nil hy]
  constructor
  · intro h
    exact List.append_cancel_left (ofNames_injective hna hnb h)
  · intro h
    rw [artifactPlace, artifactPlace, h]

end Artifact

namespace SourceMap

variable {m : SourceMap}

theorem size_insert_le (compiled source : Path) : (m.insert compiled source).size ≤ m.size + 1 := by
  simpa [size, insert] using List.length_filter_le _ _

theorem size_foldl_insert_le (entries : List (Path × Path)) (m : SourceMap) :
    (entries.foldl (fun m entry => m.insert entry.1 entry.2) m).size ≤ m.size + entries.length := by
  induction entries generalizing m with
  | nil => simp
  | cons entry rest ih =>
    have hfirst := size_insert_le (m := m) entry.1 entry.2
    have hrest := ih (m.insert entry.1 entry.2)
    simp only [List.foldl_cons, List.length_cons]
    omega

theorem size_insert_eq_iff (compiled source : Path) :
    (m.insert compiled source).size = m.size + 1 ↔
      ∀ entry ∈ m.entries, ¬entry.1.same compiled := by
  simp [size, insert, List.length_filter_eq_length_iff]

/-- A source map has as many entries as were made exactly if no two were made for the same key. -/
theorem size_foldl_insert_eq_iff (entries : List (Path × Path)) (m : SourceMap) :
    (entries.foldl (fun m entry => m.insert entry.1 entry.2) m).size = m.size + entries.length ↔
      entries.Pairwise (fun e f => ¬e.1.same f.1) ∧
        ∀ e ∈ m.entries, ∀ f ∈ entries, ¬e.1.same f.1 := by
  induction entries generalizing m with
  | nil => simp
  | cons entry rest ih =>
    have hbound := size_foldl_insert_le rest (m.insert entry.1 entry.2)
    have hfirst := size_insert_le (m := m) entry.1 entry.2
    have hsplit : (rest.foldl (fun m entry => m.insert entry.1 entry.2)
        (m.insert entry.1 entry.2)).size = m.size + (rest.length + 1) ↔
        (rest.foldl (fun m entry => m.insert entry.1 entry.2) (m.insert entry.1 entry.2)).size =
          (m.insert entry.1 entry.2).size + rest.length ∧
        (m.insert entry.1 entry.2).size = m.size + 1 := by
      omega
    rw [List.foldl_cons, List.length_cons, hsplit, ih, size_insert_eq_iff, List.pairwise_cons]
    simp only [insert, List.mem_cons, List.mem_filter, forall_eq_or_imp]
    constructor
    · rintro ⟨⟨hrest, hentry, hold⟩, hnew⟩
      refine ⟨⟨hentry, hrest⟩, fun e he => ⟨hnew e he, fun f hf => ?_⟩⟩
      exact hold e ⟨he, by simpa using hnew e he⟩ f hf
    · rintro ⟨⟨hentry, hrest⟩, hold⟩
      exact ⟨⟨hrest, hentry, fun e he => (hold e he.1).2⟩, fun e he => (hold e he).1⟩

end SourceMap

def Disk.EmptyDirectory (d : Disk) (p : Path) : Prop :=
  ∃ place, d.resolve p = .ok place ∧ d.get? place = some .directory ∧
    ∀ names, names ≠ [] → d.get? (place ++ names) = none

theorem Disk.ground_of_empty {d : Disk} {root : Path} {place : Place}
    (hr : d.resolve root = .ok place) (hd : d.get? place = some .directory)
    (h : ∀ names, names ≠ [] → d.get? (place ++ names) = none) : d.Ground root place := by
  refine ⟨.inl hr, hd, fun names target => ?_⟩
  by_cases hn : names = []
  · simp [hn, hd]
  · simp [h names hn]

namespace Compilation

variable {root : Path} {compiler : Compiler} {extension : Text} {w w' : World}
  {outcome : Compilation} {sources : List Path} {attempts : List Attempt}

/-- A root that is an empty directory once it has been asked for. -/
def FreshRoot (root : Path) (w : World) : Prop :=
  ∃ w₁, Check.ensureDirectory root w = .ok () w₁ ∧ w₁.disk.EmptyDirectory root

theorem FreshRoot.course (hroot : FreshRoot root w)
    (h : run root sources compiler extension w = .ok outcome w') :
    ∃ begun attempts finished, w.disk.Grows begun.disk ∧ begun.disk.EmptyDirectory root ∧
      attempts.map Attempt.source = sources ∧
      Course root compiler extension begun {} attempts outcome finished := by
  obtain ⟨begun, attempts, finished, hbegun, hsources, hcourse, -⟩ := run_eq_ok h
  obtain ⟨w₁, hw₁, hempty⟩ := hroot
  have hsame := hbegun.symm.trans (Check.ensureDirectory_of_disk hw₁ rfl)
  have hdisk : begun.disk = w₁.disk := by rw [(EStateM.Result.ok.inj hsame).2]
  have hgrows := (Check.ensureDirectory_adds hw₁).1.grows
  exact ⟨begun, attempts, finished, hdisk ▸ hgrows, hdisk ▸ hempty, hsources, hcourse⟩

def compiledSources (attempts : List Attempt) : List Path :=
  (attempts.filter Attempt.succeeded).map Attempt.source

/-- In an empty directory the source map is as large as the list of artifacts exactly if no two
templates that compiled are twins. -/
theorem Course.size_eq_iff {begun finished : World} (hc : compiler.KeepsDisk)
    (hroot : begun.disk.EmptyDirectory root) (hy : Bootstrap.isBareExtension extension)
    (hs : ∀ a ∈ attempts, Artifact.Spelled a.source)
    (hnodup : (attempts.map Attempt.source).Nodup)
    (c : Course root compiler extension begun {} attempts outcome finished) :
    outcome.compiled.length = (compiledSources attempts).length ∧
      (outcome.sourceMap.size = outcome.compiled.length ↔
        Artifact.Twinless (compiledSources attempts)) := by
  obtain ⟨place, hr, hd, hempty⟩ := hroot
  have hgrows := c.grows hc
  have ground := hgrows.ground (Disk.ground_of_empty hr hd hempty)
  obtain ⟨artifacts, hmap, hcompiled, hall⟩ := c.artifacts hc
  have hspelled : ∀ s ∈ compiledSources attempts, Artifact.Spelled s := by
    intro s hm
    obtain ⟨a, ha, rfl⟩ := List.mem_map.1 hm
    exact hs a (List.mem_of_mem_filter ha)
  have hentries : artifacts = (compiledSources attempts).map fun s =>
      (ofNames (Artifact.artifactPlace place extension s), s) := by
    have hsucceeded : ∀ a ∈ attempts.filter Attempt.succeeded, Artifact.Spelled a.source :=
      fun a ha => hs a (List.mem_of_mem_filter ha)
    rw [compiledSources, List.map_map, ← List.map_id artifacts]
    refine map_eq_of_forall₂ ((List.forall₂_and_left _ _).2 ⟨hsucceeded, hall⟩) ?_
    rintro a ⟨artifact, source⟩ ⟨ha, rfl, hcanonical⟩
    obtain rfl := Artifact.canonical_artifact ground hy ha hcanonical
    rfl
  have hnodup' : (compiledSources attempts).Nodup :=
    hnodup.sublist (List.filter_sublist.map Attempt.source)
  have hlength : outcome.compiled.length = (compiledSources attempts).length := by
    simp [hcompiled, hentries]
  have hsize := SourceMap.size_foldl_insert_eq_iff artifacts {}
  rw [← hmap, hentries, List.pairwise_map, List.length_map] at hsize
  refine ⟨hlength, ?_⟩
  rw [hlength, Artifact.twinless_iff_pairwise hnodup']
  refine Iff.trans (by simpa [SourceMap.size] using hsize) ?_
  refine List.Pairwise.iff_of_mem fun hs ht => ?_
  rw [← Artifact.same_artifactPlace_iff (Disk.resolve_names hr) hy (hspelled _ hs) (hspelled _ ht),
    Bool.not_eq_true]

end Compilation

namespace Discovery

open Compilation

variable {dirs : List Path} {templateExtension targetExtension : Text} {exclude : List Text}
  {w w₁ : World} {discovery : Discovery}

theorem spelled {c : Path} (h : run dirs templateExtension exclude w = .ok discovery w₁)
    (hc : c ∈ discovery.files) : Artifact.Spelled c := by
  obtain ⟨place, body, rfl, hn, hne, -⟩ := file_place h hc
  exact ⟨place, hn, hne, rfl⟩

theorem twinless (hx : Text.replacement ∉ templateExtension) (hl : w.disk.LinkFree)
    (h : run dirs templateExtension exclude w = .ok discovery w₁) :
    Artifact.Twinless discovery.files := by
  intro a ha b hb hab
  obtain ⟨before, stem, bytes, hstem, hdot, hshown, hn, rfl⟩ := file_extension hl h ha
  obtain ⟨before', stem', bytes', hstem', hdot', hshown', hn', rfl⟩ := file_extension hl h hb
  rw [Artifact.Twins, Artifact.names_ofNames hn, Artifact.names_ofNames hn'] at hab
  obtain ⟨rfl, rfl⟩ : before = before' ∧ stem = stem' := by
    simpa [stem_append hstem hdot, stem_append hstem' hdot'] using hab
  obtain rfl : bytes = bytes' :=
    Path.mk.inj (eq_of_display (hshown.trans hshown'.symm) (hshown.symm ▸ hx))
  rfl

/-- Files share an artifact only with their twins. So artifacts tell templates apart where there are no
twins, as on a disk without links if only one extension is shown like that of the templates; and after
a compilation into an empty directory the source map is as large as the list of artifacts where no two
templates that compiled are twins. -/
structure SharedByTwins (disk : Disk) (templateExtension : Text) (files : List Path)
    (extension : Text) : Prop where
  distinct : ∀ root, (∀ a ∈ files, ∀ b ∈ files,
    (Artifact.path root a extension).same (Artifact.path root b extension) → a = b) ↔
      Artifact.Twinless files
  linkFree : disk.LinkFree → Text.replacement ∉ templateExtension → Artifact.Twinless files
  sizes : ∀ root compiler w outcome w', compiler.KeepsDisk → FreshRoot root w →
    Compilation.run root files compiler extension w = .ok outcome w' →
      ∃ begun attempts finished, attempts.map Attempt.source = files ∧
        Course root compiler extension begun {} attempts outcome finished ∧
        outcome.compiled.length = (compiledSources attempts).length ∧
        (outcome.sourceMap.size = outcome.compiled.length ↔
          Artifact.Twinless (compiledSources attempts))

theorem discovered_shared_by_twins (hy : Bootstrap.isBareExtension targetExtension)
    (h : run dirs templateExtension exclude w = .ok discovery w₁) :
    SharedByTwins w.disk templateExtension discovery.files targetExtension where
  distinct := by
    intro root
    have hsame : ∀ a ∈ discovery.files, ∀ b ∈ discovery.files,
        ((Artifact.path root a targetExtension).same (Artifact.path root b targetExtension) ↔
          Artifact.Twins a b) := fun a ha b hb =>
      Artifact.same_path_iff (spelled h ha).names_ne_nil (spelled h hb).names_ne_nil hy root
    constructor
    · exact fun hd a ha b hb ht => hd a ha b hb ((hsame a ha b hb).2 ht)
    · exact fun ht a ha b hb hs => ht a ha b hb ((hsame a ha b hb).1 hs)
  linkFree := fun hl hx => twinless hx hl h
  sizes := by
    intro root compiler w outcome w' hc hroot hrun
    obtain ⟨begun, attempts, finished, -, hempty, hsources, hcourse⟩ := hroot.course hrun
    refine ⟨begun, attempts, finished, hsources, hcourse, ?_⟩
    refine hcourse.size_eq_iff hc hempty hy (fun a ha => spelled h ?_) ?_
    · exact hsources ▸ List.mem_map.2 ⟨a, ha, rfl⟩
    · exact hsources ▸ nodup_files h

/-- A template `page.latte`, and a link `a.latte` to the file `page.txt` beside it. -/
def linkedDisk : Disk where
  entries := [(["s"], .directory), (["s", "t"], .directory),
    (["s", "t", "page.latte"], .file (Text.bytes "L")),
    (["s", "t", "page.txt"], .file (Text.bytes "T")), (["s", "t", "a.latte"], .link "page.txt")]
  workdir := ["s"]
  workdir_names := by decide

def linkedFiles : List Path := ["/s/t/page.latte", "/s/t/page.txt"]

theorem linkedDisk_files : ∃ discovery w,
    run ["t"] "latte" [] { disk := linkedDisk } = .ok discovery w ∧ discovery.files = linkedFiles := by
  have hfiles : outcome? (fun discovery _ => discovery.files)
      (run ["t"] "latte" [] { disk := linkedDisk }) = some linkedFiles := by
    decide +kernel
  exact exists_of_outcome hfiles

theorem discovered_shared_by_twins_linked :
    (∃ discovery w, run ["t"] "latte" [] { disk := linkedDisk } = .ok discovery w ∧
      discovery.files = linkedFiles) ∧ SharedByTwins linkedDisk "latte" linkedFiles "php" := by
  obtain ⟨discovery, w, h, hfiles⟩ := linkedDisk_files
  exact ⟨⟨discovery, w, h, hfiles⟩,
    hfiles ▸ discovered_shared_by_twins (by decide) h⟩

/-- Both files compile, to the same artifact, and the source map has one entry for the two. -/
theorem linked_files_share_artifact :
    (∃ discovery w, run ["t"] "latte" [] { disk := linkedDisk } = .ok discovery w ∧
      discovery.files = linkedFiles) ∧
    (Artifact.path "out" "/s/t/page.latte" "php").same (Artifact.path "out" "/s/t/page.txt" "php") ∧
    ∃ outcome w, Compilation.run "out" linkedFiles (Scripted.compiler []) "php"
        { disk := linkedDisk } = .ok outcome w ∧
      outcome.compiled.length = 2 ∧ outcome.sourceMap.size = 1 := by
  have hsizes : outcome? (fun outcome _ => (outcome.compiled.length, outcome.sourceMap.size))
      (Compilation.run "out" linkedFiles (Scripted.compiler []) "php" { disk := linkedDisk }) =
        some (2, 1) := by
    decide +kernel
  obtain ⟨outcome, w, h, hsizes⟩ := exists_of_outcome hsizes
  obtain ⟨hcompiled, hsize⟩ := Prod.mk.inj hsizes
  exact ⟨linkedDisk_files, by decide +kernel, outcome, w, h, hcompiled, hsize⟩

end Discovery

end TemplateCheck
