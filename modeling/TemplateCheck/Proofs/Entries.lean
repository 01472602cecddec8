import Mathlib.Data.Finset.Card
import TemplateCheck.Proofs.Agreement

/-!
A source map goes by the components of its keys and not by their spelling. Whatever was entered in
whatever order, it holds one entry for each list of components, and that is the last one made for it.
A file that is there is looked up by the place that its path leads to, so it does not matter how the
path is spelled; a path that leads nowhere stands for itself.
-/
namespace TemplateCheck.SourceMap

open Path

variable {m : SourceMap} {compiled source p q : Path} {entries : List (Path × Path)}
  {keys : Finset (List Component)} {key : List Component} {d : Disk} {place : Place}

def ofEntries (entries : List (Path × Path)) : SourceMap :=
  entries.foldl (fun m entry => m.insert entry.1 entry.2) {}

/-- The keys are these, each of them once. -/
structure Keyed (m : SourceMap) (keys : Finset (List Component)) : Prop where
  nodup : (m.keys.map components).Nodup
  exact : (m.keys.map components).toFinset = keys

theorem mem_components_insert : key ∈ (m.insert compiled source).keys.map components ↔
    key ∈ m.keys.map components ∨ key = compiled.components := by
  simp only [List.mem_map, mem_keys_insert, Path.same, beq_iff_eq]
  constructor
  · rintro ⟨found, rfl | ⟨hfound, -⟩, rfl⟩
    · exact .inr rfl
    · exact .inl ⟨found, hfound, rfl⟩
  · rintro (⟨found, hfound, rfl⟩ | rfl)
    · -- a key with the components of the new one has made way for it
      by_cases hsame : found.components = compiled.components
      · exact ⟨compiled, .inl rfl, hsame.symm⟩
      · exact ⟨found, .inr ⟨hfound, hsame⟩, rfl⟩
    · exact ⟨compiled, .inl rfl, rfl⟩

theorem Keyed.insert (h : Keyed m keys) (compiled source : Path) :
    Keyed (m.insert compiled source) (keys ∪ {compiled.components}) where
  nodup := nodup_map_keys_insert (fun hsame => by simp [Path.same, hsame]) h.nodup
  exact := by
    ext key
    rw [← h.exact, List.mem_toFinset, mem_components_insert, Finset.mem_union, Finset.mem_singleton,
      List.mem_toFinset]

theorem Keyed.foldl_insert (h : Keyed m keys) (entries : List (Path × Path)) :
    Keyed (entries.foldl (fun m entry => m.insert entry.1 entry.2) m)
      (keys ∪ (entries.map fun entry => entry.1.components).toFinset) := by
  induction entries generalizing m keys with
  | nil => simpa using h
  | cons entry rest ih =>
    have hrest := ih (h.insert entry.1 entry.2)
    rwa [Finset.union_assoc, ← Finset.insert_eq, ← List.toFinset_cons] at hrest

theorem Keyed.size_eq (h : Keyed m keys) : m.size = keys.card := by
  rw [← h.exact, List.toFinset_card_of_nodup h.nodup]
  simp [size, SourceMap.keys]

theorem keyed_ofEntries (entries : List (Path × Path)) :
    Keyed (ofEntries entries) (entries.map fun entry => entry.1.components).toFinset := by
  have hnone : Keyed {} ∅ := ⟨List.nodup_nil, rfl⟩
  simpa [ofEntries] using hnone.foldl_insert entries

def LastFor (entries : List (Path × Path)) (key : List Component) (source : Path) : Prop :=
  ∃ earlier compiled later, entries = earlier ++ (compiled, source) :: later ∧
    compiled.components = key ∧ ∀ entry ∈ later, entry.1.components ≠ key

theorem get?_ofEntries (entries : List (Path × Path)) (p : Path) :
    (ofEntries entries).get? p = (entries.reverse.find? fun entry => entry.1.same p).map (·.2) := by
  rw [ofEntries, get?_foldl_insert]
  exact Option.or_none

theorem get?_eq_some_iff :
    (ofEntries entries).get? p = some source ↔ LastFor entries p.components source := by
  rw [get?_ofEntries, Option.map_eq_some_iff]
  constructor
  · rintro ⟨⟨compiled, found⟩, hfound, rfl⟩
    obtain ⟨hsame, earlier, later, rfl, hlater⟩ := find?_reverse_eq_some_iff.1 hfound
    refine ⟨earlier, compiled, later, rfl, by simpa [Path.same] using hsame, ?_⟩
    intro entry hentry
    simpa [Path.same] using hlater entry hentry
  · rintro ⟨earlier, compiled, later, rfl, hsame, hlater⟩
    refine ⟨(compiled, source), find?_reverse_eq_some_iff.2 ⟨?_, earlier, later, rfl, ?_⟩, rfl⟩
    · simp [Path.same, hsame]
    · intro entry hentry
      simpa [Path.same] using hlater entry hentry

theorem get?_eq_none_iff : (ofEntries entries).get? p = none ↔
    ∀ entry ∈ entries, entry.1.components ≠ p.components := by
  rw [get?_ofEntries, Option.map_eq_none_iff, List.find?_eq_none]
  simp [Path.same]

/-- The components that a path is looked up by: those of its canonical path, or its own if it has
none. -/
def sought (d : Disk) (p : Path) : List Component :=
  match d.canonicalize p with
  | .ok canonical => canonical.components
  | .error _ => p.components

theorem sought_of_resolve (h : d.resolve p = .ok place) :
    sought d p = .root :: place.map .normal := by
  have hcanonical := Disk.canonicalize_eq_ok.2 ⟨place, h, rfl⟩
  rw [sought, hcanonical]
  exact components_ofNames (Disk.resolve_names h)

theorem resolve_eq_get? (m : SourceMap) (d : Disk) (p : Path) :
    ∃ asked, m.resolve d p = m.get? asked ∧ asked.components = sought d p := by
  unfold resolve sought
  cases d.canonicalize p with
  | ok canonical => exact ⟨canonical, rfl, rfl⟩
  | error fault => exact ⟨p, rfl, rfl⟩

theorem resolve_eq_some_iff : (ofEntries entries).resolve d p = some source ↔
    LastFor entries (sought d p) source := by
  obtain ⟨asked, hresolve, hasked⟩ := resolve_eq_get? (ofEntries entries) d p
  rw [hresolve, ← hasked, get?_eq_some_iff]

theorem resolve_eq_none_iff : (ofEntries entries).resolve d p = none ↔
    ∀ entry ∈ entries, entry.1.components ≠ sought d p := by
  obtain ⟨asked, hresolve, hasked⟩ := resolve_eq_get? (ofEntries entries) d p
  rw [hresolve, ← hasked, get?_eq_none_iff]

theorem resolve_congr (h : sought d p = sought d q) :
    (ofEntries entries).resolve d p = (ofEntries entries).resolve d q := by
  ext source
  rw [resolve_eq_some_iff, resolve_eq_some_iff, h]

/-- After any entries, a source map holds one for each list of components, the last one made for it,
and a path is looked up by where it leads, or by its own components if it leads nowhere. -/
theorem last_entry_counts (d : Disk) (entries : List (Path × Path)) :
    (ofEntries entries).size = (entries.map fun entry => entry.1.components).toFinset.card ∧
    (∀ p source, (ofEntries entries).resolve d p = some source ↔
      LastFor entries (sought d p) source) ∧
    (∀ p, (ofEntries entries).resolve d p = none ↔
      ∀ entry ∈ entries, entry.1.components ≠ sought d p) ∧
    ∀ place p q, d.resolve p = .ok place → d.resolve q = .ok place →
      sought d p = .root :: place.map .normal ∧
      (ofEntries entries).resolve d p = (ofEntries entries).resolve d q := by
  refine ⟨(keyed_ofEntries entries).size_eq, fun p source => resolve_eq_some_iff,
    fun p => resolve_eq_none_iff, ?_⟩
  intro place p q hp hq
  have hsought := sought_of_resolve hp
  exact ⟨hsought, resolve_congr (hsought.trans (sought_of_resolve hq).symm)⟩

/-- A file, a link to its directory, and a working directory beside it. -/
def spelledDisk : Disk where
  entries := [(["w"], .directory), (["out"], .directory),
    (["out", "x.php"], .file (Text.bytes "<?php")), (["ln"], .link "out")]
  workdir := ["w"]
  workdir_names := by decide

/-- Two spellings of one key, and one of a path that leads nowhere. -/
def spelledEntries : List (Path × Path) :=
  [("/out/x.php", "/t/old"), ("gone//y.php", "/t/y"), ("/out/.//x.php/", "/t/new")]

theorem last_entry_counts_spelled :
    (ofEntries spelledEntries).size = 2 ∧
    (∀ p ∈ (["/out/x.php", "../ln/./x.php", "/ln//x.php"] : List Path),
      (ofEntries spelledEntries).resolve spelledDisk p = some "/t/new") ∧
    (ofEntries spelledEntries).resolve spelledDisk "gone/./y.php/" = some "/t/y" ∧
    (ofEntries spelledEntries).resolve spelledDisk "./gone/y.php" = none := by
  obtain ⟨hsize, hsome, hnone, halike⟩ := last_entry_counts spelledDisk spelledEntries
  have hnew : (ofEntries spelledEntries).resolve spelledDisk "/out/x.php" = some "/t/new" :=
    (hsome "/out/x.php" "/t/new").2
      ⟨spelledEntries.take 2, "/out/.//x.php/", [], rfl, by decide +kernel, by simp⟩
  refine ⟨hsize.trans (by decide +kernel), ?_, ?_, (hnone _).2 (by decide +kernel)⟩
  · intro p hp
    have hplace : spelledDisk.resolve p = .ok ["out", "x.php"] := by
      revert p
      decide +kernel
    rw [← hnew]
    exact (halike ["out", "x.php"] p "/out/x.php" hplace (by decide +kernel)).2
  · exact (hsome _ "/t/y").2
      ⟨spelledEntries.take 1, "gone//y.php", spelledEntries.drop 2, rfl, by decide +kernel,
        by decide +kernel⟩

end TemplateCheck.SourceMap
