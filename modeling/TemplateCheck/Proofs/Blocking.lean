import TemplateCheck.Proofs.Making
import TemplateCheck.Proofs.Sharing

/-!
The artifact of a template is a file, and the artifacts of the templates below a directory need that
directory. The two get in each other's way when the artifact of one template has the name of a
directory with another template in it, as `x.latte` does beside `x.php/y.latte`. Nothing else does: a
compilation into an empty directory in which every template compiles fails over such a pair, and
otherwise only over the spelling of a path.
-/
namespace TemplateCheck

open CheckM Path

def Path.Above (p q : Path) : Prop := ∃ rest, rest ≠ [] ∧ q.components = p.components ++ rest

namespace Artifact

/-- The artifact of the first path has the name of a directory that the second path lies below. -/
def Blocks (extension : Text) (a b : Path) : Prop :=
  ∃ parent name rest, rest ≠ [] ∧ names a = parent ++ [name] ∧
    names b = parent ++ withSuffix (stem name) extension :: rest

def Unblocked (extension : Text) (files : List Path) : Prop :=
  ∀ a ∈ files, ∀ b ∈ files, ¬Blocks extension a b

variable {a b : Path} {extension : Text} {files : List Path}

theorem mirrored_above_iff (ha : names a ≠ []) (hb : names b ≠ []) :
    (∃ rest, rest ≠ [] ∧ mirrored (names b) extension = mirrored (names a) extension ++ rest) ↔
      Blocks extension a b := by
  obtain ⟨parent, name, ha⟩ := exists_snoc ha
  obtain ⟨before, last, hb⟩ := exists_snoc hb
  rw [Blocks, ha, hb, mirrored_snoc, mirrored_snoc]
  constructor
  · rintro ⟨rest, hne, h⟩
    obtain ⟨middle, final, rfl⟩ := exists_snoc hne
    rw [← List.append_assoc] at h
    obtain ⟨rfl, -⟩ := List.append_inj' h rfl
    exact ⟨parent, name, middle ++ [last], by simp, rfl, by simp⟩
  · rintro ⟨parent', name', rest, hne, hsnoc, h⟩
    obtain ⟨rfl, hname⟩ := List.append_inj' hsnoc rfl
    obtain rfl : name = name' := by simpa using hname
    obtain ⟨middle, final, rfl⟩ := exists_snoc hne
    rw [← List.cons_append, ← List.append_assoc] at h
    obtain ⟨rfl, -⟩ := List.append_inj' h rfl
    exact ⟨middle ++ [withSuffix (stem last) extension], by simp, by simp⟩

theorem path_above_iff (ha : names a ≠ []) (hb : names b ≠ [])
    (hy : Bootstrap.isBareExtension extension) (root : Path) :
    (path root a extension).Above (path root b extension) ↔ Blocks extension a b := by
  rw [← mirrored_above_iff ha hb, Above, components_path ha hy, components_path hb hy]
  constructor
  · rintro ⟨rest, hne, h⟩
    rw [List.append_assoc, List.append_cancel_left_eq, List.map_eq_append_iff] at h
    obtain ⟨front, back, hsplit, hfront, rfl⟩ := h
    rw [List.map_inj_right fun _ _ h => Component.normal.inj h] at hfront
    exact ⟨back, by simpa using hne, hfront ▸ hsplit⟩
  · rintro ⟨rest, hne, h⟩
    exact ⟨rest.map .normal, by simpa using hne, by simp [h]⟩

end Artifact

namespace Disk

open Artifact

variable {d d' : Disk} {place : Place} {extension : Text} {files : List Path} {names before : List Text}
  {name : Text} {s : Path}

/-- Below the root there are artifacts of templates, and directories on the way to them. -/
def Occupied (d : Disk) (place : Place) (extension : Text) (files : List Path) : Prop :=
  ∀ names entry, names ≠ [] → d.get? (place ++ names) = some entry →
    ∃ s ∈ files, ∃ rest, mirrored (Artifact.names s) extension = names ++ rest ∧
      ((rest ≠ [] ∧ entry = .directory) ∨ (rest = [] ∧ ∃ body, entry = .file body))

theorem passable_of_fronts (h : ∀ front back, names = front ++ back → front ≠ [] →
    d.get? (place ++ front) = none ∨ d.get? (place ++ front) = some .directory) :
    d.Passable place names := by
  induction names generalizing place with
  | nil => trivial
  | cons name rest ih =>
    refine ⟨h [name] rest rfl (by simp), ih fun front back hsplit hne => ?_⟩
    simpa using h (name :: front) back (by simp [hsplit]) (by simp)

theorem Occupied.passable (h : d.Occupied place extension files)
    (hfree : Unblocked extension files) (hs : ∀ p ∈ files, Artifact.names p ≠ [])
    (hm : s ∈ files) (hsplit : mirrored (Artifact.names s) extension = before ++ [name]) :
    d.Passable place before := by
  refine passable_of_fronts fun front back hfront hne => ?_
  cases hentry : d.get? (place ++ front) with
  | none => exact .inl rfl
  | some entry =>
    obtain ⟨a, ha, rest, hrest, ⟨-, rfl⟩ | ⟨rfl, -⟩⟩ := h front entry hne hentry
    · exact .inr rfl
    · refine absurd ((mirrored_above_iff (hs a ha) (hs s hm)).1 ?_) (hfree a ha s hm)
      exact ⟨back ++ [name], by simp, by simp [hsplit, hfront, hrest]⟩

theorem Occupied.writable (h : d.Occupied place extension files)
    (hfree : Unblocked extension files) (hs : ∀ p ∈ files, Artifact.names p ≠ [])
    (hm : s ∈ files) (hsplit : mirrored (Artifact.names s) extension = before ++ [name]) :
    d.get? (place ++ before ++ [name]) = none ∨
      ∃ old, d.get? (place ++ before ++ [name]) = some (.file old) := by
  rw [List.append_assoc]
  cases hentry : d.get? (place ++ (before ++ [name])) with
  | none => exact .inl rfl
  | some entry =>
    obtain ⟨b, hb, rest, hrest, ⟨hne, -⟩ | ⟨-, body, rfl⟩⟩ := h _ entry (by simp) hentry
    · refine absurd ((mirrored_above_iff (hs s hm) (hs b hb)).1 ?_) (hfree s hm b hb)
      exact ⟨rest, hne, by rw [hrest, hsplit]⟩
    · exact .inr ⟨body, rfl⟩

theorem paved_of_pathExists {root : Path} (ground : d.Ground root place) (hn : AllNames names)
    (hne : names ≠ []) (hpass : d.Passable place names)
    (h : d.pathExists (ofSegments (root.base ++ names))) : d.Paved place names := by
  have hdescend : ∃ found, d.descend place names = .arrived found := by
    cases hr : d.resolve (ofSegments (root.base ++ names)) with
    | ok found => exact ⟨found, ((resolve_below ground hn hne).1 hr).2⟩
    | error fault => simp [pathExists, stat, hr] at h
  obtain ⟨found, hfound⟩ := hdescend
  rcases hpass.descend hn with hpaved | hmissing | hlong
  · exact hpaved
  · simp [hfound] at hmissing
  · simp [hfound] at hlong

theorem Occupied.laid (h : d.Occupied place extension files) (hlaid : d.Laid place before d')
    (hm : s ∈ files) (hsplit : mirrored (Artifact.names s) extension = before ++ [name]) :
    d'.Occupied place extension files := by
  intro names entry hne hentry
  cases hold : d.get? (place ++ names) with
  | some old =>
    rw [hlaid.adds.kept hold, Option.some.injEq] at hentry
    exact h names entry hne (hentry ▸ hold)
  | none =>
    obtain ⟨front, back, rfl, -, hfront⟩ := hlaid.along hold (by simp [hentry])
    obtain rfl := List.append_cancel_left hfront
    refine ⟨s, hm, back ++ [name], by simp [hsplit], .inl ⟨by simp, ?_⟩⟩
    rcases hlaid.adds.added hold with hnone | hdir
    · simp [hentry] at hnone
    · simpa [hentry] using hdir

theorem Occupied.put {body : ByteArray} (h : d.Occupied place extension files) (hm : s ∈ files)
    (hsplit : mirrored (Artifact.names s) extension = before ++ [name]) :
    (d.put (place ++ before ++ [name]) (.file body)).Occupied place extension files := by
  intro names entry hne hentry
  rw [List.append_assoc] at hentry
  by_cases hsame : names = before ++ [name]
  · subst hsame
    rw [get?_put_self (by simp), Option.some.injEq] at hentry
    exact ⟨s, hm, [], by simp [hsplit], .inr ⟨rfl, body, hentry.symm⟩⟩
  · rw [get?_put_of_ne fun hp => hsame (List.append_cancel_left hp)] at hentry
    exact h names entry hne hentry

end Disk

namespace Compilation

open Check

variable {root source : Path} {compiler : Compiler} {extension : Text} {w : World}
  {F : Fault → Prop} {I J : Disk → Prop} {sources : List Path}

theorem makeRoom_of_roomy {target : Path} (h : w.disk.Roomy target) :
    makeRoom target w = .ok () w := by
  cases hup : target.parent with
  | none =>
    rw [makeRoom, hup]
    rfl
  | some up =>
    rw [makeRoom, hup]
    rcases h up hup with hempty | hthere
    · exact ensureDirectory_of_empty hempty
    · exact ensureDirectory_of_exists hthere

theorem ends_makeRoom {place : Place} {before : List Text} {name : Text}
    (ground : w.disk.Ground root place) (hn : AllNames before) (hname : isName name)
    (hpass : w.disk.Passable place before) :
    Ends Disk.OfSpelling (fun _ w' => w.disk.Laid place before w'.disk)
      (makeRoom (ofSegments (root.base ++ (before ++ [name]))) w) := by
  by_cases hne : before = []
  · subst hne
    rw [List.nil_append, makeRoom_of_roomy (ground.roomy hname)]
    exact .well (.refl trivial)
  · rw [makeRoom, parent_below (by simp [hn, hname]) hne]
    have hmade := Disk.makeDirectories_below ground hn hne hpass
    refine ends_ensureDirectory (fun hthere => ?_) (fun d _ hd => ?_) (fun fault d _ hd => ?_)
    · exact .refl (Disk.paved_of_pathExists ground hn hne hpass hthere)
    · rw [hd] at hmade
      cases hmade with
      | laid hlaid => exact hlaid
    · rw [hd] at hmade
      cases hmade with
      | spelled hf => exact hf

/-- One template's turn ends well if room can be made for its artifact and the artifact can be written
and found. -/
theorem ends_compileOne {done : Compilation} (hy : Bootstrap.isBareExtension extension)
    (hc : compiler.KeepsDisk)
    (hcompile : ∀ w, J w.disk → ∃ code w', compiler.compile source w = .ok (.ok code) w')
    (hroom : ∀ w₁ : World, w₁.disk = w.disk →
      Ends F (fun _ w' => J w'.disk) (makeRoom (Artifact.path root source extension) w₁))
    (hwrite : ∀ d body, J d →
      (∀ fault, d.write (Artifact.path root source extension) body = .error fault → F fault) ∧
      ∀ d', d.write (Artifact.path root source extension) body = .ok d' → I d' ∧
        ∀ fault, d'.canonicalize (Artifact.path root source extension) = .error fault → F fault) :
    Ends F (fun done' w' => I w'.disk ∧ ∃ artifact, done' = done.addArtifact artifact source)
      (compileOne root compiler extension done source w) := by
  have hvalid : Artifact.validExtension extension := by
    simpa [Artifact.validExtension] using (bare_iff.1 hy).2.2.1
  refine Ends.within (Ends.bind (Q := fun target w' =>
    target = Artifact.path root source extension ∧ J w'.disk) ?_ ?_)
  · rw [prepare, Artifact.locate, if_pos hvalid, pure_bind]
    refine Ends.bind (hroom { w with context := w.context.apply (.file source) } rfl) ?_
    intro _ w₁ hj
    exact .well ⟨rfl, hj⟩
  · rintro _ asked ⟨rfl, hj⟩
    obtain ⟨code, answered, hcode⟩ := hcompile asked hj
    rw [bind_of_ok hcode, settle]
    rw [← hc source hcode] at hj
    obtain ⟨herror, hok⟩ := hwrite answered.disk (Text.bytes code) hj
    refine (ends_writeText (Q := fun _ w' =>
      answered.disk.write _ (Text.bytes code) = .ok w'.disk) (fun d hd => hd) herror).bind ?_
    intro _ written hwritten
    obtain ⟨hi, hfound⟩ := hok _ hwritten
    refine (ends_canonicalize (Q := fun _ w' => w' = written) (fun _ _ => rfl) hfound).bind ?_
    rintro artifact _ rfl
    exact .well ⟨hi, artifact, rfl⟩

theorem ends_compileAll
    (step : ∀ source ∈ sources, ∀ done w, I w.disk →
      Ends F (fun done' w' => I w'.disk ∧ ∃ artifact, done' = done.addArtifact artifact source)
        (compileOne root compiler extension done source w)) (done : Compilation) (w : World)
    (hi : I w.disk) :
    Ends F (fun done' _ => done'.compiled.length = done.compiled.length + sources.length ∧
        done'.report = done.report)
      (compileAll root compiler extension done sources w) := by
  induction sources generalizing done w with
  | nil => exact .well ⟨rfl, rfl⟩
  | cons source rest ih =>
    rw [compileAll]
    refine (step source (by simp) done w hi).bind ?_
    rintro _ w₁ ⟨hi₁, artifact, rfl⟩
    have hrest := ih (fun s hs => step s (List.mem_cons_of_mem _ hs)) (done.addArtifact artifact source)
      w₁ hi₁
    simpa [addArtifact, Nat.add_assoc, Nat.add_comm 1] using hrest

end Compilation

/-- A compiler that has code for each of the files, however the disk may grow. -/
def Compiler.Compiles (compiler : Compiler) (files : List Path) (d : Disk) : Prop :=
  ∀ p ∈ files, ∀ w : World, d.Grows w.disk → ∃ code w', compiler.compile p w = .ok (.ok code) w'

/-- A walk does not get past a file. -/
theorem Disk.descend_past_file {d : Disk} {here found : Place} {names more : List Text}
    {body : ByteArray} (hn : AllNames names) (hne : names ≠ [])
    (hfile : d.get? (here ++ names) = some (.file body)) (hmore : more ≠ []) :
    d.descend here (names ++ more) ≠ .arrived found := by
  induction names generalizing here with
  | nil => exact absurd rfl hne
  | cons name rest ih =>
    rw [allNames_cons] at hn
    rw [List.cons_append]
    rcases Nat.lt_or_ge nameLimit name.length with hlong | hshort
    · simp [descend_tooLong hn.1 hlong]
    · rw [descend_name hn.1 hshort]
      cases hentry : d.get? (here ++ [name]) with
      | none => simp
      | some entry =>
        cases entry with
        | file => simp [hmore]
        | link => simp
        | directory =>
          by_cases hrest : rest = []
          · simp [hrest, hentry] at hfile
          · exact ih hn.2 hrest (by simpa using hfile)

namespace Compilation

open Check

variable {root source : Path} {compiler : Compiler} {extension : Text} {w w' : World}
  {place : Place} {files : List Path} {attempts : List Attempt} {done done' outcome : Compilation}
  {a : Attempt} {d : Disk}

theorem Course.succeeded_of_compiles (hc : compiler.KeepsDisk) (hcompile : compiler.Compiles files d)
    (hgrows : d.Grows w.disk) (c : Course root compiler extension w done attempts done' w')
    (hfiles : ∀ a ∈ attempts, a.source ∈ files) : ∀ a ∈ attempts, a.succeeded := by
  induction c with
  | nil => simp
  | @cons w w₁ w' done done₁ done' a rest t _ ih =>
    rw [List.forall_mem_cons] at hfiles ⊢
    refine ⟨?_, ih (hgrows.trans (t.grows hc)) hfiles.2⟩
    have hasked := (prepare_adds t.prepared).1.grows
    obtain ⟨code, answered, hcode⟩ := hcompile a.source hfiles.1 a.asked (hgrows.trans hasked)
    have hsame := t.called.symm.trans hcode
    exact Attempt.succeeded_iff.2 ⟨code, (EStateM.Result.ok.inj hsame).1⟩

/-- An attempt that succeeds leaves a file in the place of the artifact. -/
theorem Course.file_of_succeeded (hc : compiler.KeepsDisk)
    (hy : Bootstrap.isBareExtension extension) (ground : w.disk.Ground root place)
    (c : Course root compiler extension w done attempts done' w') (ha : a ∈ attempts)
    (hs : a.succeeded) (hne : Artifact.names a.source ≠ []) :
    ∃ body, w'.disk.get? (place ++ Artifact.mirrored (Artifact.names a.source) extension) =
      some (.file body) := by
  induction c with
  | nil => simp at ha
  | cons t course ih =>
    rcases List.mem_cons.1 ha with rfl | ha
    · obtain ⟨code, hcode⟩ := Attempt.succeeded_iff.1 hs
      have hnames := Artifact.allNames_mirrored (Artifact.allNames_names a.source) hy
      have hmirrored : Artifact.mirrored (Artifact.names a.source) extension ≠ [] :=
        Artifact.mirrored_ne_nil hne
      obtain ⟨d, -, hdisk⟩ := t.disk_of_code hc hcode ground hnames hmirrored
        (Artifact.path_eq hne root extension)
      have hput := Disk.get?_put_self (d := d) (List.append_ne_nil_of_right_ne_nil place hmirrored)
        (.file (Text.bytes code))
      rw [← hdisk] at hput
      exact (course.grows hc).file hput
    · exact ih ((t.grows hc).ground ground) ha

theorem Course.unblocked (hc : compiler.KeepsDisk) (hy : Bootstrap.isBareExtension extension)
    (ground : w.disk.Ground root place)
    (c : Course root compiler extension w done attempts done' w')
    (hs : ∀ a ∈ attempts, a.succeeded ∧ Artifact.names a.source ≠ []) :
    Artifact.Unblocked extension (attempts.map Attempt.source) := by
  intro p hp q hq hblocks
  obtain ⟨a, ha, rfl⟩ := List.mem_map.1 hp
  obtain ⟨b, hb, rfl⟩ := List.mem_map.1 hq
  obtain ⟨hsa, hna⟩ := hs a ha
  obtain ⟨hsb, hnb⟩ := hs b hb
  obtain ⟨rest, hrest, habove⟩ := (Artifact.mirrored_above_iff hna hnb).2 hblocks
  obtain ⟨body, hfile⟩ := c.file_of_succeeded hc hy ground ha hsa hna
  obtain ⟨canonical, hcanonical⟩ := c.canonicalize_of_succeeded hc hb hsb
  obtain ⟨found, hfound, -⟩ := Disk.canonicalize_eq_ok.1 hcanonical
  rw [Artifact.path_eq hnb, Disk.resolve_below ((c.grows hc).ground ground)
    (Artifact.allNames_mirrored (Artifact.allNames_names b.source) hy)
    (Artifact.mirrored_ne_nil hnb), habove] at hfound
  exact Disk.descend_past_file (Artifact.allNames_mirrored (Artifact.allNames_names a.source) hy)
    (Artifact.mirrored_ne_nil hna) hfile hrest hfound.2

/-- What is true of the disk between two turns. -/
structure Between (d : Disk) (place : Place) (extension : Text) (files : List Path) (d' : Disk) :
    Prop where
  grows : d.Grows d'
  occupied : d'.Occupied place extension files

theorem ends_compileOne_unblocked (hy : Bootstrap.isBareExtension extension)
    (hc : compiler.KeepsDisk) (hcompile : compiler.Compiles files d) (ground : d.Ground root place)
    (hfree : Artifact.Unblocked extension files) (hs : ∀ p ∈ files, Artifact.names p ≠ [])
    (hm : source ∈ files) (done : Compilation) (w : World)
    (hi : Between d place extension files w.disk) :
    Ends Disk.OfSpelling (fun done' w' => Between d place extension files w'.disk ∧
        ∃ artifact, done' = done.addArtifact artifact source)
      (compileOne root compiler extension done source w) := by
  have hmirrored : Artifact.mirrored (Artifact.names source) extension ≠ [] :=
    Artifact.mirrored_ne_nil (hs source hm)
  have hnames := Artifact.allNames_mirrored (Artifact.allNames_names source) hy
  have hpath := Artifact.path_eq (hs source hm) root extension
  obtain ⟨before, name, hsplit⟩ := exists_snoc hmirrored
  rw [hsplit, allNames_append, allNames_cons] at hnames
  rw [hsplit] at hpath
  refine ends_compileOne (I := Between d place extension files)
    (J := fun d' => Between d place extension files d' ∧ d'.Paved place before) hy hc
    (fun w hj => hcompile source hm w hj.1.grows) ?_ ?_
  · intro w₁ hw₁
    rw [← hw₁] at hi
    have hpass := hi.occupied.passable hfree hs hm hsplit
    rw [hpath]
    refine (ends_makeRoom (hi.grows.ground ground) hnames.1 hnames.2.1 hpass).imp ?_
    intro _ w₂ hlaid
    exact ⟨⟨hi.grows.trans hlaid.adds.grows, hi.occupied.laid hlaid hm hsplit⟩, hlaid.paved⟩
  · rintro d' body ⟨hbetween, hpaved⟩
    have hplace := hbetween.occupied.writable hfree hs hm hsplit
    rw [hpath]
    rcases Disk.write_paved (hbetween.grows.ground ground) hnames.1 hnames.2.1 hpaved hplace body with
      ⟨d₁, hwrite, hput, hresolve⟩ | ⟨fault, hf, hwrite⟩
    · refine ⟨by simp [hwrite], fun d₂ hd₂ => ?_⟩
      obtain rfl := Except.ok.inj (hwrite.symm.trans hd₂)
      refine ⟨⟨hbetween.grows.trans (Disk.write_grows hwrite), ?_⟩, ?_⟩
      · exact hput ▸ hbetween.occupied.put hm hsplit
      · simp [Disk.canonicalize, hresolve, Except.map]
    · refine ⟨fun other hother => ?_, by simp [hwrite]⟩
      exact Except.error.inj (hwrite.symm.trans hother) ▸ hf

/-- Whatever is blocked, a compilation fails only at the path of a file or a directory. -/
theorem ends_compileOne_grows (hy : Bootstrap.isBareExtension extension)
    (hc : compiler.KeepsDisk) (hcompile : compiler.Compiles files d) (hm : source ∈ files)
    (done : Compilation) (w : World) (hi : d.Grows w.disk) :
    Ends (fun _ => True) (fun done' w' => d.Grows w'.disk ∧
        ∃ artifact, done' = done.addArtifact artifact source)
      (compileOne root compiler extension done source w) := by
  refine ends_compileOne (I := d.Grows) (J := d.Grows) hy hc (hcompile source hm) ?_ ?_
  · intro w₁ hw₁
    rw [← hw₁] at hi
    cases hp : (Artifact.path root source extension).parent with
    | none =>
      rw [makeRoom, hp]
      exact .well hi
    | some directory =>
      rw [makeRoom, hp]
      refine ends_ensureDirectory (fun _ => hi) (fun d' _ hd' => ?_) (fun _ _ _ _ => trivial)
      have hadds := Disk.makeLineage_adds directory.lineage w₁.disk
      rw [← Disk.makeDirectories, hd'] at hadds
      exact hi.trans hadds.grows
  · intro d' body hd'
    exact ⟨fun _ _ => trivial, fun d₁ hd₁ => ⟨hd'.trans (Disk.write_grows hd₁), fun _ _ => trivial⟩⟩

theorem ends_run {F : Fault → Prop} {Q : Compilation → Prop} {w₁ : World}
    (h : ensureDirectory root w = .ok () w₁)
    (hall : ∀ begun : World, begun.disk = w₁.disk →
      Ends F (fun outcome _ => Q outcome) (compileAll root compiler extension {} files begun)) :
    Ends F (fun outcome _ => Q outcome) (run root files compiler extension w) := by
  refine Ends.within (Ends.bind (Q := fun _ v => v.disk = w.disk) (.well rfl) ?_)
  intro _ v hv
  refine Ends.bind (Q := fun _ begun => begun.disk = w₁.disk) ?_ fun {_ begun} => hall begun
  exact ensureDirectory_of_disk h hv ▸ .well rfl

theorem ends_run_unblocked (hy : Bootstrap.isBareExtension extension)
    (hc : compiler.KeepsDisk) (hcompile : compiler.Compiles files w.disk) (hroot : FreshRoot root w)
    (hs : ∀ p ∈ files, Artifact.names p ≠ []) (hfree : Artifact.Unblocked extension files) :
    Ends Disk.OfSpelling (fun outcome _ => outcome.compiled.length = files.length ∧
      outcome.report = {}) (run root files compiler extension w) := by
  obtain ⟨w₁, hw₁, place, hr, hd, hempty⟩ := hroot
  have hgrows := (ensureDirectory_adds hw₁).1.grows
  have ground := Disk.ground_of_empty hr hd hempty
  have hcompile₁ : compiler.Compiles files w₁.disk :=
    fun p hp w hw => hcompile p hp w (hgrows.trans hw)
  have hstart : Between w₁.disk place extension files w₁.disk := by
    refine ⟨.refl _, fun names entry hne hentry => ?_⟩
    simp [hempty names hne] at hentry
  refine ends_run (Q := fun outcome => _ ∧ outcome.report = {}) hw₁ fun begun hdisk => ?_
  refine (ends_compileAll (fun source hm => ends_compileOne_unblocked hy hc hcompile₁ ground hfree hs hm)
    {} begun (hdisk ▸ hstart)).imp ?_
  rintro outcome _ ⟨hlength, hreport⟩
  exact ⟨by simpa using hlength, hreport⟩

theorem ends_run_blocked (hy : Bootstrap.isBareExtension extension)
    (hc : compiler.KeepsDisk) (hcompile : compiler.Compiles files w.disk) (hroot : FreshRoot root w)
    (hs : ∀ p ∈ files, Artifact.names p ≠ []) (hblocked : ¬Artifact.Unblocked extension files) :
    Ends (fun _ => True) (fun _ _ => False) (run root files compiler extension w) := by
  have hends : Ends (fun _ => True) (fun _ _ => True) (run root files compiler extension w) := by
    obtain ⟨w₁, hw₁, -⟩ := hroot
    refine ends_run (Q := fun _ => True) hw₁ fun begun hdisk => ?_
    have hgrows : w.disk.Grows begun.disk := hdisk ▸ (ensureDirectory_adds hw₁).1.grows
    refine (ends_compileAll (fun source hm => ends_compileOne_grows hy hc hcompile hm) {} begun
      hgrows).imp fun _ => trivial
  refine hends.not_ok fun outcome w' hrun => hblocked ?_
  obtain ⟨begun, attempts, finished, hgrows, ⟨place, hr, hd, hempty⟩, rfl, hcourse⟩ :=
    hroot.course hrun
  have hmem : ∀ a ∈ attempts, a.source ∈ attempts.map Attempt.source :=
    fun a ha => List.mem_map.2 ⟨a, ha, rfl⟩
  have hsucceeded := hcourse.succeeded_of_compiles hc hcompile hgrows hmem
  exact hcourse.unblocked hc hy (Disk.ground_of_empty hr hd hempty)
    fun a ha => ⟨hsucceeded a ha, hs _ (hmem a ha)⟩

end Compilation

theorem Disk.emptyDirectory_of_entries {d : Disk} {p : Path} {place : Place}
    (hr : d.resolve p = .ok place) (hd : d.get? place = some .directory)
    (h : ∀ e ∈ d.entries, place <+: e.1 → e.1 = place) : d.EmptyDirectory p := by
  refine ⟨place, hr, hd, fun names hne => ?_⟩
  rw [get?_of_ne_nil (by simp [hne]), List.lookup_eq_none_iff]
  rintro e he
  by_contra hsame
  have hplace : place ++ names = e.1 := by simpa using hsame
  have := h e he (hplace ▸ List.prefix_append place names)
  simp [← hplace, hne] at this

namespace Discovery

variable {dirs : List Path} {templateExtension targetExtension : Text} {exclude : List Text}
  {w w₁ : World} {discovery : Discovery}

/-- An artifact lies above another one exactly if its template blocks the other one. Compiled into an
empty directory by a compiler that has code for all of them, files that do not block each other fail
over the spelling of a path or not at all, and files that do always fail. -/
structure BlockedInPairs (files : List Path) (extension : Text) : Prop where
  above : ∀ root, ∀ a ∈ files, ∀ b ∈ files,
    ((Artifact.path root a extension).Above (Artifact.path root b extension) ↔
      Artifact.Blocks extension a b)
  unblocked : ∀ root compiler w, compiler.KeepsDisk → compiler.Compiles files w.disk →
    Compilation.FreshRoot root w → Artifact.Unblocked extension files →
      Check.Ends Disk.OfSpelling (fun outcome _ => outcome.compiled.length = files.length ∧
        outcome.report = {}) (Compilation.run root files compiler extension w)
  blocked : ∀ root compiler w, compiler.KeepsDisk → compiler.Compiles files w.disk →
    Compilation.FreshRoot root w → ¬Artifact.Unblocked extension files →
      Check.Ends (fun _ => True) (fun _ _ => False)
        (Compilation.run root files compiler extension w)

theorem discovered_blocked_in_pairs (hy : Bootstrap.isBareExtension targetExtension)
    (h : run dirs templateExtension exclude w = .ok discovery w₁) :
    BlockedInPairs discovery.files targetExtension := by
  have hs : ∀ p ∈ discovery.files, Artifact.names p ≠ [] := fun p hp => (spelled h hp).names_ne_nil
  constructor
  · exact fun root a ha b hb => Artifact.path_above_iff (hs a ha) (hs b hb) hy root
  · exact fun root compiler w hc hcompile hroot hfree =>
      Compilation.ends_run_unblocked hy hc hcompile hroot hs hfree
  · exact fun root compiler w hc hcompile hroot hblocked =>
      Compilation.ends_run_blocked hy hc hcompile hroot hs hblocked

/-- A template `x.latte` beside a directory `x.php` with a template in it. -/
def nestedDisk : Disk where
  entries := [(["t"], .directory), (["t", "x.latte"], .file (Text.bytes "X")),
    (["t", "x.php"], .directory), (["t", "x.php", "y.latte"], .file (Text.bytes "Y"))]
  workdir := []
  workdir_names := allNames_nil

def nestedFiles : List Path := ["/t/x.latte", "/t/x.php/y.latte"]

def nestedCompiler : Compiler :=
  Scripted.compiler [("x.latte", .code "X"), ("y.latte", .code "Y")]

theorem nestedDisk_files : ∃ discovery w,
    run ["t"] "latte" [] { disk := nestedDisk } = .ok discovery w ∧ discovery.files = nestedFiles := by
  have hfiles : outcome? (fun discovery _ => discovery.files)
      (run ["t"] "latte" [] { disk := nestedDisk }) = some nestedFiles := by
    decide +kernel
  exact exists_of_outcome hfiles

theorem nestedCompiler_compiles : nestedCompiler.Compiles nestedFiles nestedDisk := by
  intro p hp w _
  obtain rfl | rfl : p = "/t/x.latte" ∨ p = "/t/x.php/y.latte" := by simpa [nestedFiles] using hp
  · exact ⟨_, _, rfl⟩
  · exact ⟨_, _, rfl⟩

theorem nestedDisk_freshRoot : Compilation.FreshRoot "out" { disk := nestedDisk } := by
  let place : Place := ["out"]
  have hroot : outcome? (fun _ w => decide (w.disk.resolve "out" = .ok place ∧
        w.disk.holdsDirectory place ∧ ∀ e ∈ w.disk.entries, place <+: e.1 → e.1 = place))
      (Check.ensureDirectory "out" { disk := nestedDisk }) = some true := by
    decide +kernel
  obtain ⟨_, w, h, hw⟩ := exists_of_outcome hroot
  obtain ⟨hr, hd, he⟩ := of_decide_eq_true hw
  exact ⟨w, h, Disk.emptyDirectory_of_entries hr (Disk.holdsDirectory_iff.1 hd) he⟩

theorem nestedFiles_blocked : Artifact.Blocks "php" "/t/x.latte" "/t/x.php/y.latte" :=
  ⟨["t"], "x.latte", ["y.latte"], by decide +kernel⟩

theorem discovered_blocked_in_pairs_nested :
    (∃ discovery w, run ["t"] "latte" [] { disk := nestedDisk } = .ok discovery w ∧
      discovery.files = nestedFiles) ∧ BlockedInPairs nestedFiles "php" ∧
    Check.Ends (fun _ => True) (fun _ _ => False)
      (Compilation.run "out" nestedFiles nestedCompiler "php" { disk := nestedDisk }) := by
  obtain ⟨discovery, w, h, hfiles⟩ := nestedDisk_files
  have hpairs : BlockedInPairs nestedFiles "php" :=
    hfiles ▸ discovered_blocked_in_pairs (by decide) h
  refine ⟨⟨discovery, w, h, hfiles⟩, hpairs, ?_⟩
  refine hpairs.blocked "out" nestedCompiler _ (Scripted.compiler_keepsDisk _)
    nestedCompiler_compiles nestedDisk_freshRoot fun hfree => ?_
  exact hfree _ (by decide) _ (by decide) nestedFiles_blocked

/-- There are no links and both templates compile, but the artifact of the first one stands where the
second one needs a directory. -/
theorem nested_templates_block :
    nestedDisk.LinkFree ∧
    (∃ discovery w, run ["t"] "latte" [] { disk := nestedDisk } = .ok discovery w ∧
      discovery.files = nestedFiles) ∧
    (Artifact.path "out" "/t/x.latte" "php").Above
      (Artifact.path "out" "/t/x.php/y.latte" "php") ∧
    ∃ w, Compilation.run "out" nestedFiles (Scripted.compiler []) "php" { disk := nestedDisk } =
      .error (.failed (.io "Failed to write file" "out/t/x.php/y.php" (.fault .notADirectory))) w := by
  refine ⟨Disk.linkFree_of_entries (by decide), nestedDisk_files, ?_, exists_of_failure ?_⟩
  · exact ⟨[.normal "y.php"], by simp, by decide +kernel⟩
  · decide +kernel

end Discovery

end TemplateCheck
