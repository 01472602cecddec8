import TemplateCheck.Proofs.Account
import TemplateCheck.Proofs.Landing

/-!
A later template may write to an artifact of an earlier one, because both have the same target or
because a link leads from one target to the other. Whoever writes to a place last is also the last to
be entered for its canonical path, so the source map and the disk never disagree about an artifact.
-/
namespace TemplateCheck

open CheckM Path

namespace SourceMap

variable {m : SourceMap} {key compiled source : Path}

def keys (m : SourceMap) : List Path := m.entries.map (·.1)

theorem mem_keys_insert :
    key ∈ (m.insert compiled source).keys ↔ key = compiled ∨ key ∈ m.keys ∧ ¬key.same compiled := by
  simp [keys, insert]

/-- An entry makes those for the same key go, so no key comes twice, also where only a part of it is
looked at that shows its components. -/
theorem nodup_map_keys_insert {α : Type} {f : Path → α} (hf : ∀ {a b}, f a = f b → a.same b)
    (h : (m.keys.map f).Nodup) : ((m.insert compiled source).keys.map f).Nodup := by
  have hrest : (((m.entries.filter fun entry => !entry.1.same compiled).map (·.1)).map f).Nodup :=
    h.sublist ((List.filter_sublist.map _).map _)
  refine List.nodup_cons.2 ⟨?_, hrest⟩
  intro hm
  obtain ⟨found, hfound, hsame⟩ := List.mem_map.1 hm
  obtain ⟨entry, hentry, rfl⟩ := List.mem_map.1 hfound
  have hother := (List.mem_filter.1 hentry).2
  simp [hf hsame] at hother

theorem nodup_keys_insert (h : m.keys.Nodup) : (m.insert compiled source).keys.Nodup := by
  have hkeys : ((m.insert compiled source).keys.map id).Nodup := by
    refine nodup_map_keys_insert ?_ (by rwa [List.map_id])
    intro a b hsame
    simp [Path.same, show a = b from hsame]
  rwa [List.map_id] at hkeys

/-- Entries for canonical paths leave each of these paths once in the keys. -/
theorem keys_foldl_insert (entries : List (Path × Path)) (m : SourceMap) (hm : m.keys.Nodup)
    (hcanonical : ∀ key compiled, key ∈ m.keys ∨ key ∈ entries.map (·.1) →
      compiled ∈ entries.map (·.1) → (key.same compiled ↔ key = compiled)) :
    (entries.foldl (fun m entry => m.insert entry.1 entry.2) m).keys.Nodup ∧
      ∀ key, key ∈ (entries.foldl (fun m entry => m.insert entry.1 entry.2) m).keys ↔
        key ∈ m.keys ∨ key ∈ entries.map (·.1) := by
  induction entries generalizing m with
  | nil => simpa using hm
  | cons entry rest ih =>
    have hfirst : ∀ key, key ∈ (m.insert entry.1 entry.2).keys ↔ key ∈ m.keys ∨ key = entry.1 := by
      intro key
      rw [mem_keys_insert]
      constructor
      · rintro (rfl | ⟨hk, -⟩)
        · exact .inr rfl
        · exact .inl hk
      · rintro (hk | rfl)
        · by_cases hsame : key = entry.1
          · exact .inl hsame
          · exact .inr ⟨hk, mt (hcanonical key entry.1 (.inl hk) (by simp)).1 hsame⟩
        · exact .inl rfl
    obtain ⟨hnodup, hmem⟩ := ih (m.insert entry.1 entry.2) (nodup_keys_insert hm) (by
      intro key compiled hk hc
      refine hcanonical key compiled ?_ (List.mem_cons_of_mem _ hc)
      rw [hfirst] at hk
      rcases hk with (hk | rfl) | hk
      · exact .inl hk
      · exact .inr (by simp)
      · exact .inr (List.mem_cons_of_mem _ hk))
    refine ⟨hnodup, fun key => ?_⟩
    rw [List.foldl_cons, hmem, hfirst, List.map_cons, List.mem_cons, or_assoc]

end SourceMap

theorem Disk.Adds.file_iff {d d' : Disk} (h : Disk.Adds d d') {place : Place} {body : ByteArray} :
    d'.get? place = some (.file body) ↔ d.get? place = some (.file body) := by
  refine ⟨fun hf => ?_, h.kept⟩
  cases he : d.get? place with
  | none => rcases h.added he with hn | hd <;> simp_all
  | some entry => rwa [h.kept he] at hf

namespace Compilation

/-- An attempt that compiled, and whose target leads to the place. -/
def Attempt.WritesTo (d : Disk) (root : Path) (extension : Text) (place : Place) (a : Attempt) : Prop :=
  a.succeeded ∧ d.resolve (Artifact.path root a.source extension) = .ok place

/-- The attempt wrote its code to the place, and no later one wrote there. -/
structure LastWrite (d : Disk) (root : Path) (extension : Text) (attempts : List Attempt)
    (place : Place) (a : Attempt) (code : Text) : Prop where
  answer : a.answer = .ok code
  leads : d.resolve (Artifact.path root a.source extension) = .ok place
  last : ∃ earlier later, attempts = earlier ++ a :: later ∧
    ∀ b ∈ later, ¬b.WritesTo d root extension place

/-- What became of a place between two states of a compilation. -/
inductive History (root : Path) (extension : Text) (attempts : List Attempt) (place : Place)
    (d d' : Disk) (m m' : SourceMap) : Prop where
  | written (a : Attempt) (code : Text) (write : LastWrite d' root extension attempts place a code)
      (content : d'.get? place = some (.file (Text.bytes code)))
      (source : m'.get? (ofNames place) = some a.source)
  | untouched (unwritten : ∀ b ∈ attempts, ¬b.WritesTo d' root extension place)
      (content : ∀ body, d'.get? place = some (.file body) ↔ d.get? place = some (.file body))
      (source : m'.get? (ofNames place) = m.get? (ofNames place))

variable {root : Path} {compiler : Compiler} {extension : Text} {w w' : World}
  {done done' outcome : Compilation} {a : Attempt} {attempts : List Attempt} {place : Place}

theorem Turn.lands (hc : compiler.KeepsDisk) (t : Turn root compiler extension w done a done' w')
    {code : Text} (ha : a.answer = .ok code) :
    ∃ d place, Disk.Adds w.disk d ∧ place ≠ [] ∧
      w'.disk = d.put place (.file (Text.bytes code)) ∧
      w'.disk.resolve (Artifact.path root a.source extension) = .ok place ∧
      done' = done.addArtifact (ofNames place) a.source := by
  obtain ⟨w₁, hs, rfl⟩ := t.settled
  have hadds := (prepare_adds t.prepared).1
  rw [ha] at hs
  obtain ⟨artifact, hwrite, hcanonical, rfl, -⟩ := settle_code hs
  obtain ⟨place, hresolve, rfl⟩ := Disk.canonicalize_eq_ok.1 hcanonical
  obtain ⟨hne, hput⟩ := Disk.write_lands hwrite hresolve
  rw [hc a.source t.called] at hput
  exact ⟨a.asked.disk, place, hadds, hne, hput, hresolve, rfl⟩

theorem get?_addArtifact {other : Place} {source : Path} (ho : AllNames other)
    (hp : AllNames place) : (done.addArtifact (ofNames other) source).sourceMap.get? (ofNames place) =
      if other = place then some source else done.sourceMap.get? (ofNames place) := by
  have hsame : (ofNames other).same (ofNames place) ↔ other = place := by
    rw [same_ofNames ho hp]
    exact ⟨ofNames_injective ho hp, fun h => by rw [h]⟩
  rw [addArtifact, SourceMap.get?_insert]
  by_cases h : other = place
  · rw [if_pos (hsame.2 h), if_pos h]
  · rw [if_neg (mt hsame.1 h), if_neg h]

/-- What the last of several attempts did to a place decides, unless it did nothing to it. -/
theorem Course.history (hc : compiler.KeepsDisk)
    (c : Course root compiler extension w done attempts done' w') (hp : AllNames place) :
    History root extension attempts place w.disk w'.disk done.sourceMap done'.sourceMap := by
  induction c with
  | nil w done => exact .untouched (by simp) (fun _ => Iff.rfl) rfl
  | @cons w w₁ w' done done₁ done' first rest t course ih =>
    cases ih with
    | written a code write content source =>
      obtain ⟨earlier, later, hsplit, hlater⟩ := write.last
      refine .written a code ⟨write.answer, write.leads, first :: earlier, later, ?_, hlater⟩ content
        source
      rw [hsplit, List.cons_append]
    | untouched unwritten content source =>
      cases ha : first.answer with
      | error error =>
        have hfailed : first.failed := Attempt.failed_iff.2 ⟨error, ha⟩
        have hsucceeded : ¬first.succeeded := by simpa [Attempt.failed] using hfailed
        obtain ⟨hmap, -⟩ := t.report_of_failed hfailed
        refine .untouched ?_ (fun body => ?_) (by rw [source, hmap])
        · rw [List.forall_mem_cons]
          exact ⟨fun h => hsucceeded h.1, unwritten⟩
        · rw [content, (t.adds_of_failed hc hfailed).file_iff]
      | ok code =>
        obtain ⟨d, other, hadds, hne, hput, hleads, rfl⟩ := t.lands hc ha
        have hleads' := (course.grows hc).resolve_eq hleads
        rw [get?_addArtifact (Disk.resolve_names hleads) hp] at source
        by_cases hsame : other = place
        · subst hsame
          rw [if_pos rfl] at source
          refine .written first code ⟨ha, hleads', [], rest, rfl, unwritten⟩ ?_ source
          rw [content, hput, Disk.get?_put_self hne]
        · rw [if_neg hsame] at source
          refine .untouched ?_ (fun body => ?_) source
          · rw [List.forall_mem_cons]
            refine ⟨fun h => hsame ?_, unwritten⟩
            exact Except.ok.inj (hleads'.symm.trans h.2)
          · rw [content, hput, Disk.get?_put_of_ne (Ne.symm hsame), hadds.file_iff]

def opened (w : World) (sources : List Path) : World :=
  { w with context := w.context.apply (.phase .compile),
           progress := ⟨0, UInt64.ofNat sources.length⟩ }

/-- The attempts of a compilation that has succeeded: one for each source, in their order. -/
def Performed (root : Path) (sources : List Path) (compiler : Compiler) (extension : Text)
    (w : World) (attempts : List Attempt) (outcome : Compilation) (w' : World) : Prop :=
  attempts.map Attempt.source = sources ∧
    ∃ begun finished, Check.ensureDirectory root (opened w sources) = .ok () begun ∧
      Course root compiler extension begun {} attempts outcome finished ∧ Quiet finished w'

variable {sources : List Path}

theorem exists_performed (h : run root sources compiler extension w = .ok outcome w') :
    ∃ attempts, Performed root sources compiler extension w attempts outcome w' := by
  obtain ⟨begun, attempts, finished, hbegun, hsources, hcourse, hquiet⟩ := run_eq_ok h
  exact ⟨attempts, hsources, begun, finished, hbegun, hcourse, hquiet⟩

theorem Performed.history (hc : compiler.KeepsDisk)
    (h : Performed root sources compiler extension w attempts outcome w') (hp : AllNames place) :
    History root extension attempts place w.disk w'.disk {} outcome.sourceMap := by
  obtain ⟨-, begun, finished, hbegun, hcourse, hquiet⟩ := h
  have hadds : Disk.Adds w.disk begun.disk := (Check.ensureDirectory_adds hbegun).1
  rw [hquiet.disk]
  cases hcourse.history hc hp with
  | written a code write content source => exact .written a code write content source
  | untouched unwritten content source =>
    exact .untouched unwritten (fun body => (content body).trans hadds.file_iff) source

theorem Course.length_eq (hc : compiler.KeepsDisk)
    (c : Course root compiler extension w {} attempts outcome w') :
    outcome.compiled.length + outcome.report.count = attempts.length := by
  obtain ⟨records, hrecords, hfailed⟩ := c.records
  obtain ⟨artifacts, -, hcompiled, hsucceeded⟩ := c.artifacts hc
  have hnot : attempts.countP (fun a => !a.succeeded) = records.length := by
    rw [List.countP_eq_length_filter]
    exact hfailed.length_eq
  rw [Report.count, hrecords, hcompiled, List.nil_append, List.nil_append, List.length_map,
    ← hsucceeded.length_eq, ← hnot, ← List.countP_eq_length_filter]
  simpa using (List.length_eq_countP_add_countP Attempt.succeeded (l := attempts)).symm

theorem Course.keys (hc : compiler.KeepsDisk)
    (c : Course root compiler extension w {} attempts outcome w') :
    outcome.sourceMap.keys.Nodup ∧
      ∀ key, key ∈ outcome.sourceMap.keys ↔ key ∈ outcome.compiled := by
  obtain ⟨artifacts, hmap, hcompiled, hall⟩ := c.artifacts hc
  have hcanonical : ∀ key ∈ artifacts.map (·.1), ∃ p, w'.disk.canonicalize p = .ok key := by
    intro key hkey
    obtain ⟨entry, hentry, rfl⟩ := List.mem_map.1 hkey
    obtain ⟨a, -, -, hartifact⟩ := exists_of_forall₂ hall.flip hentry
    exact ⟨_, hartifact⟩
  have hkeys := SourceMap.keys_foldl_insert artifacts {} .nil (by
    rintro key compiled (hk | hk) hk'
    · simp [SourceMap.keys] at hk
    · obtain ⟨p, hp⟩ := hcanonical key hk
      obtain ⟨q, hq⟩ := hcanonical compiled hk'
      exact Disk.canonical_same hp hq)
  rw [← hmap] at hkeys
  simpa [SourceMap.keys, hcompiled] using hkeys

/-- An artifact that stands as the source map says: the map names the template that wrote it last, and
the file holds the code of that template. It is read by way of the target of the template, and under
its key if the key is not too long to be looked up. -/
structure Stands (root : Path) (extension : Text) (attempts : List Attempt) (m : SourceMap) (d : Disk)
    (key : Path) (a : Attempt) (code : Text) : Prop where
  source : m.get? key = some a.source
  entry : ∃ place, key = ofNames place ∧ d.get? place = some (.file (Text.bytes code)) ∧
    LastWrite d root extension attempts place a code
  canonical : d.canonicalize (Artifact.path root a.source extension) = .ok key
  read : d.readBytes (Artifact.path root a.source extension) = .ok (Text.bytes code)
  readKey : d.Paved [] d.workdir → Disk.spellingFault key = none →
    d.readBytes key = .ok (Text.bytes code)

theorem LastWrite.stands {d : Disk} {m : SourceMap} {code : Text}
    (h : LastWrite d root extension attempts place a code)
    (hcontent : d.get? place = some (.file (Text.bytes code)))
    (hsource : m.get? (ofNames place) = some a.source) :
    Stands root extension attempts m d (ofNames place) a code where
  source := hsource
  entry := ⟨place, rfl, hcontent, h⟩
  canonical := Disk.canonicalize_eq_ok.2 ⟨place, h.leads, rfl⟩
  read := by simp [Disk.readBytes, h.leads, hcontent]
  readKey := by
    intro hworkdir hspelling
    simp [Disk.readBytes, Disk.resolve_canonical hworkdir h.leads hspelling, hcontent]

/-- The outcome of a compilation, held against its attempts and the disk that it leaves. -/
structure Agrees (root : Path) (extension : Text) (sources : List Path) (attempts : List Attempt)
    (outcome : Compilation) (d : Disk) : Prop where
  count : outcome.compiled.length + outcome.report.count = sources.length
  compiled : List.Forall₂ (fun (a : Attempt) artifact =>
      d.canonicalize (Artifact.path root a.source extension) = .ok artifact)
    (attempts.filter Attempt.succeeded) outcome.compiled
  nodup : outcome.sourceMap.keys.Nodup
  keys : ∀ key, key ∈ outcome.sourceMap.keys ↔ key ∈ outcome.compiled
  artifacts : ∀ key ∈ outcome.sourceMap.keys,
    ∃ a code, Stands root extension attempts outcome.sourceMap d key a code

/-- Each key of the source map is a file that holds what the compiler said about the source that is
entered for it, whatever links there are and however often a target is written. -/
theorem source_map_agrees (hc : compiler.KeepsDisk)
    (h : run root sources compiler extension w = .ok outcome w') :
    ∃ attempts, Performed root sources compiler extension w attempts outcome w' ∧
      Agrees root extension sources attempts outcome w'.disk := by
  obtain ⟨attempts, hp⟩ := exists_performed h
  have ⟨hsources, begun, finished, _, hcourse, hquiet⟩ := hp
  obtain ⟨hnodup, hkeys⟩ := hcourse.keys hc
  obtain ⟨artifacts, -, hcompiled, hall⟩ := hcourse.artifacts hc
  have hcanonical : List.Forall₂ (fun (a : Attempt) artifact =>
      w'.disk.canonicalize (Artifact.path root a.source extension) = .ok artifact)
      (attempts.filter Attempt.succeeded) outcome.compiled := by
    rw [hcompiled, List.nil_append, List.forall₂_map_right_iff, hquiet.disk]
    exact hall.imp fun _ _ he => he.2
  have hcount : outcome.compiled.length + outcome.report.count = sources.length := by
    rw [hcourse.length_eq hc, ← hsources, List.length_map]
  refine ⟨attempts, hp, hcount, hcanonical, hnodup, hkeys, fun key hkey => ?_⟩
  obtain ⟨a, ha, hartifact⟩ := exists_of_forall₂ hcanonical.flip ((hkeys key).1 hkey)
  obtain ⟨place, hleads, rfl⟩ := Disk.canonicalize_eq_ok.1 hartifact
  cases hp.history hc (Disk.resolve_names hleads) with
  | written b code write content source => exact ⟨b, code, write.stands content source⟩
  | untouched unwritten content source =>
    obtain ⟨hmem, hsucceeded⟩ := List.mem_filter.1 ha
    exact absurd ⟨hsucceeded, hleads⟩ (unwritten a hmem)

/-- The artifact that an earlier check has left for `b.latte` is a link to that of `a.latte`. -/
def crossedDisk : Disk where
  entries := [(["t"], .directory), (["t", "a.latte"], .file (Text.bytes "A")),
    (["t", "b.latte"], .file (Text.bytes "B")), (["t", "c.latte"], .file (Text.bytes "C")),
    (["out"], .directory), (["out", "t"], .directory), (["out", "t", "b.php"], .link "a.php")]
  workdir := []
  workdir_names := allNames_nil

def crossedSources : List Path := ["/t/a.latte", "/t/c.latte", "/t/b.latte"]

def crossedCompiler : Compiler := Scripted.compiler [("c.latte", .mistake "broken" 3 none)]

def crossedArtifact : Path := "/out/t/a.php"

def crossedRun : EStateM.Result (Halt CheckError) World Compilation :=
  run "out" crossedSources crossedCompiler "php" { disk := crossedDisk }

theorem source_map_agrees_crossed : ∃ outcome w', crossedRun = .ok outcome w' ∧
    outcome.compiled = [crossedArtifact, crossedArtifact] ∧
    outcome.sourceMap.entries = [(crossedArtifact, ("/t/b.latte" : Path))] ∧
    ∃ attempts, Performed "out" crossedSources crossedCompiler "php" { disk := crossedDisk } attempts
        outcome w' ∧ Agrees "out" "php" crossedSources attempts outcome w'.disk := by
  have hrun : outcome? (fun outcome _ => (outcome.compiled, outcome.sourceMap.entries)) crossedRun =
      some ([crossedArtifact, crossedArtifact], [(crossedArtifact, ("/t/b.latte" : Path))]) := by
    decide +kernel
  obtain ⟨outcome, w', h, hrun⟩ := exists_of_outcome hrun
  obtain ⟨hcompiled, hentries⟩ := Prod.mk.inj hrun
  exact ⟨outcome, w', h, hcompiled, hentries, source_map_agrees (Scripted.compiler_keepsDisk _) h⟩

end Compilation

end TemplateCheck
