import Mathlib.Data.List.Forall2
import TemplateCheck.Compilation
import TemplateCheck.Proofs.Computation

/-!
Each template is one attempt: the compiler is asked, it answers, and the answer becomes an artifact or
a record. A compilation that succeeds is a list of attempts, one for each template in order, and what
it leaves behind is read off that list.
-/
namespace TemplateCheck

theorem exists_of_forall₂ {α β : Type} {R : α → β → Prop} {xs : List α} {ys : List β} {x : α}
    (h : List.Forall₂ R xs ys) (hx : x ∈ xs) : ∃ y ∈ ys, R x y := by
  induction h with
  | nil => simp at hx
  | @cons x' y xs ys hxy _ ih =>
    rcases List.mem_cons.1 hx with rfl | hx
    · exact ⟨y, List.mem_cons_self, hxy⟩
    · obtain ⟨z, hz, hr⟩ := ih hx
      exact ⟨z, List.mem_cons_of_mem _ hz, hr⟩

theorem map_eq_of_forall₂ {α β γ : Type} {R : α → β → Prop} {f : α → γ} {g : β → γ} {xs : List α}
    {ys : List β} (h : List.Forall₂ R xs ys) (hfg : ∀ {x y}, R x y → g y = f x) :
    ys.map g = xs.map f := by
  induction h with
  | nil => rfl
  | cons hxy _ ih => rw [List.map_cons, List.map_cons, hfg hxy, ih]

namespace Compilation

open CheckM

/-- One template's turn: the world in which the compiler was asked, what it answered, and the world in
which it did. -/
structure Attempt where
  source : Path
  asked : World
  answer : Except CompileError Text
  answered : World

namespace Attempt

def succeeded (a : Attempt) : Bool := a.answer.isOk

def failed (a : Attempt) : Bool := !a.succeeded

theorem succeeded_iff {a : Attempt} : a.succeeded ↔ ∃ code, a.answer = .ok code := by
  cases h : a.answer <;> simp [succeeded, h, Except.isOk, Except.toBool]

theorem failed_iff {a : Attempt} : a.failed ↔ ∃ error, a.answer = .error error := by
  cases h : a.answer <;> simp [failed, succeeded, h, Except.isOk, Except.toBool]

end Attempt

section Course

variable (root : Path) (compiler : Compiler) (extension : Text)

/-- The steps of one attempt. -/
structure Turn (w : World) (done : Compilation) (a : Attempt) (done' : Compilation) (w' : World) :
    Prop where
  prepared : prepare root extension a.source
    { w with context := w.context.apply (.file a.source) } =
      .ok (Artifact.path root a.source extension) a.asked
  called : compiler.compile a.source a.asked = .ok a.answer a.answered
  settled : ∃ w₁, settle done a.source (Artifact.path root a.source extension) a.answer a.answered =
    .ok done' w₁ ∧ w' = { w₁ with context := w.context }

/-- Attempts one after the other. -/
inductive Course : World → Compilation → List Attempt → Compilation → World → Prop where
  | nil (w : World) (done : Compilation) : Course w done [] done w
  | cons {w w₁ w' : World} {done done₁ done' : Compilation} {a : Attempt} {rest : List Attempt} :
      Turn root compiler extension w done a done₁ w₁ → Course w₁ done₁ rest done' w' →
      Course w done (a :: rest) done' w'

end Course

variable {root : Path} {compiler : Compiler} {extension : Text} {w w' : World}
  {done done' : Compilation} {source target : Path}

theorem prepare_eq_ok (h : prepare root extension source w = .ok target w') :
    target = Artifact.path root source extension ∧
      ∃ w₁, makeRoom target w = .ok () w₁ ∧ Quiet w₁ w' := by
  obtain ⟨t, w₀, hl, h⟩ := bind_eq_ok.1 h
  obtain ⟨u, w₁, hm, h⟩ := bind_eq_ok.1 h
  obtain ⟨_, w₂, hn, h⟩ := bind_eq_ok.1 h
  obtain ⟨_, w₃, hr, h⟩ := bind_eq_ok.1 h
  obtain ⟨rfl, rfl⟩ := pure_eq_ok.1 h
  unfold Artifact.locate at hl
  split at hl
  · obtain ⟨rfl, rfl⟩ := pure_eq_ok.1 hl
    exact ⟨rfl, w₁, hm, (note_eq_ok hn).trans (record_eq_ok hr)⟩
  · exact absurd hl crash_ne_ok

theorem prepare_valid (h : prepare root extension source w = .ok target w') :
    Artifact.validExtension extension := by
  obtain ⟨t, w₀, hl, -⟩ := bind_eq_ok.1 h
  unfold Artifact.locate at hl
  split at hl
  · assumption
  · exact absurd hl crash_ne_ok

theorem makeRoom_adds (h : makeRoom target w = .ok () w') :
    Disk.Adds w.disk w'.disk ∧ w'.processes = w.processes := by
  cases hp : target.parent with
  | some directory =>
    rw [makeRoom, hp] at h
    exact Check.ensureDirectory_adds h
  | none =>
    rw [makeRoom, hp] at h
    obtain ⟨-, rfl⟩ := pure_eq_ok.1 h
    exact ⟨.refl _, rfl⟩

theorem prepare_adds (h : prepare root extension source w = .ok target w') :
    Disk.Adds w.disk w'.disk ∧ w'.processes = w.processes := by
  obtain ⟨-, w₁, hm, hq⟩ := prepare_eq_ok h
  rw [hq.disk, hq.processes]
  exact makeRoom_adds hm

theorem settle_code {code : Text} (h : settle done source target (.ok code) w = .ok done' w') :
    ∃ artifact, w.disk.write target (Text.bytes code) = .ok w'.disk ∧
      w'.disk.canonicalize target = .ok artifact ∧ done' = done.addArtifact artifact source ∧
      w'.processes = w.processes := by
  obtain ⟨_, w₁, hw, h⟩ := bind_eq_ok.1 h
  obtain ⟨artifact, w₂, hc, h⟩ := bind_eq_ok.1 h
  obtain ⟨_, w₃, ha, h⟩ := bind_eq_ok.1 h
  obtain ⟨rfl, rfl⟩ := pure_eq_ok.1 h
  obtain ⟨disk, hdisk, rfl⟩ := Check.writeText_eq_ok.1 hw
  obtain ⟨hcanonical, rfl⟩ := Check.canonicalize_eq_ok.1 hc
  have hq := advance_eq_ok ha
  rw [hq.disk, hq.processes]
  exact ⟨artifact, hdisk, hcanonical, rfl, rfl⟩

theorem settle_error {error : CompileError}
    (h : settle done source target (.error error) w = .ok done' w') :
    ∃ content, w.disk.readText error.file = .ok content ∧
      done' = done.addRecord (recordOf error content) ∧ Quiet w w' := by
  obtain ⟨_, w₁, hn, h⟩ := bind_eq_ok.1 h
  obtain ⟨content, w₂, hr, h⟩ := bind_eq_ok.1 h
  obtain ⟨_, w₃, ha, h⟩ := bind_eq_ok.1 h
  obtain ⟨rfl, rfl⟩ := pure_eq_ok.1 h
  obtain ⟨hcontent, rfl⟩ := Check.readText_eq_ok.1 hr
  have hq := note_eq_ok hn
  exact ⟨content, hq.disk ▸ hcontent, rfl, hq.trans (advance_eq_ok ha)⟩

theorem settle_grows {answer : Except CompileError Text}
    (h : settle done source target answer w = .ok done' w') :
    Disk.Grows w.disk w'.disk ∧ w'.processes = w.processes := by
  cases answer with
  | ok code =>
    obtain ⟨artifact, hw, -, -, hp⟩ := settle_code h
    exact ⟨Disk.write_grows hw, hp⟩
  | error error =>
    obtain ⟨content, -, -, hq⟩ := settle_error h
    exact ⟨hq.disk ▸ .refl _, hq.processes⟩

theorem prepare_ok {w₁ : World} (hv : Artifact.validExtension extension)
    (hroom : makeRoom (Artifact.path root source extension) w = .ok () w₁) :
    ∃ asked, prepare root extension source w = .ok (Artifact.path root source extension) asked ∧
      asked.disk = w₁.disk := by
  obtain ⟨w₂, hnote, hq⟩ := note_ok .debug .compilation
    ("Compiling " ++ source.display ++ " -> " ++ (Artifact.path root source extension).display) w₁
  obtain ⟨asked, hrecord, hq'⟩ := record_ok (.compile source) w₂
  refine ⟨asked, ?_, hq'.disk.trans hq.disk⟩
  rw [prepare, Artifact.locate, if_pos hv, pure_bind, bind_of_ok hroom, bind_of_ok hnote,
    bind_of_ok hrecord]
  rfl

theorem settle_code_ok {code : Text} {d : Disk} {artifact : Path}
    (hwrite : w.disk.write target (Text.bytes code) = .ok d)
    (hcanonical : d.canonicalize target = .ok artifact) (done : Compilation) (source : Path) :
    ∃ w', settle done source target (.ok code) w = .ok (done.addArtifact artifact source) w' ∧
      w'.disk = d := by
  obtain ⟨w', hadvance, hq⟩ := advance_ok { w with disk := d }
  refine ⟨w', ?_, hq.disk⟩
  rw [settle, bind_of_ok (a := ()) (Check.writeText_eq_ok.2 ⟨d, hwrite, rfl⟩),
    bind_of_ok (Check.canonicalize_eq_ok.2 ⟨hcanonical, rfl⟩), bind_of_ok hadvance]
  rfl

theorem settle_error_ok {error : CompileError} {content : Text}
    (hread : w.disk.readText error.file = .ok content) (done : Compilation) (source target : Path) :
    ∃ w', settle done source target (.error error) w =
      .ok (done.addRecord (recordOf error content)) w' ∧ w'.disk = w.disk := by
  obtain ⟨w₁, hnote, hq⟩ := note_ok .debug .compilation
    ("Compile error in " ++ source.display ++ ": " ++ error.display) w
  obtain ⟨w', hadvance, hq'⟩ := advance_ok w₁
  refine ⟨w', ?_, hq'.disk.trans hq.disk⟩
  rw [settle, bind_of_ok hnote, bind_of_ok (Check.readText_eq_ok.2 ⟨hq.disk ▸ hread, rfl⟩),
    bind_of_ok hadvance]
  rfl

theorem turn_of_steps {w₁ : World} {answer : Except CompileError Text} (done' : Compilation)
    (d : Disk) (hc : compiler.KeepsDisk) (hvalid : Artifact.validExtension extension)
    (hroom : makeRoom (Artifact.path root source extension)
      { w with context := w.context.apply (.file source) } = .ok () w₁)
    (hcalled : ∀ {v : World}, v.disk = w₁.disk → ∃ v₁, compiler.compile source v = .ok answer v₁)
    (hsettled : ∀ {v : World}, v.disk = w₁.disk → ∃ v₁,
      settle done source (Artifact.path root source extension) answer v = .ok done' v₁ ∧
        v₁.disk = d) :
    ∃ a w', a.source = source ∧ a.answer = answer ∧
      Turn root compiler extension w done a done' w' ∧ w'.disk = d := by
  obtain ⟨asked, hprepared, hasked⟩ := prepare_ok hvalid hroom
  obtain ⟨answered, hanswer⟩ := hcalled hasked
  obtain ⟨w₂, hsettle, hfinal⟩ := hsettled ((hc source hanswer).trans hasked)
  exact ⟨⟨source, asked, answer, answered⟩, { w₂ with context := w.context }, rfl, rfl,
    ⟨hprepared, hanswer, w₂, hsettle, rfl⟩, hfinal⟩

theorem compileOne_eq_ok : compileOne root compiler extension done source w = .ok done' w' ↔
    ∃ a, a.source = source ∧ Turn root compiler extension w done a done' w' := by
  constructor
  · intro h
    obtain ⟨w₁, hbody, rfl⟩ := within_eq_ok.1 h
    obtain ⟨target, asked, hp, hbody⟩ := bind_eq_ok.1 hbody
    obtain ⟨answer, answered, hc, hs⟩ := bind_eq_ok.1 hbody
    obtain ⟨rfl, -⟩ := prepare_eq_ok hp
    exact ⟨⟨source, asked, answer, answered⟩, rfl, hp, hc, w₁, hs, rfl⟩
  · rintro ⟨a, rfl, hp, hc, w₁, hs, rfl⟩
    exact within_eq_ok.2 ⟨w₁, bind_eq_ok.2 ⟨_, _, hp, bind_eq_ok.2 ⟨_, _, hc, hs⟩⟩, rfl⟩

theorem compileAll_eq_ok {sources : List Path} :
    compileAll root compiler extension done sources w = .ok done' w' ↔
      ∃ attempts, attempts.map Attempt.source = sources ∧
        Course root compiler extension w done attempts done' w' := by
  induction sources generalizing done w with
  | nil =>
    rw [compileAll, pure_eq_ok]
    constructor
    · rintro ⟨rfl, rfl⟩
      exact ⟨[], rfl, .nil _ _⟩
    · rintro ⟨attempts, hs, hc⟩
      obtain rfl : attempts = [] := by simpa using hs
      cases hc
      exact ⟨rfl, rfl⟩
  | cons source rest ih =>
    rw [compileAll, bind_eq_ok]
    constructor
    · rintro ⟨done₁, w₁, ho, hr⟩
      obtain ⟨a, rfl, ht⟩ := compileOne_eq_ok.1 ho
      obtain ⟨attempts, rfl, hc⟩ := ih.1 hr
      exact ⟨a :: attempts, rfl, .cons ht hc⟩
    · rintro ⟨attempts, hs, hc⟩
      cases hc with
      | nil => simp at hs
      | @cons _ w₁ _ _ done₁ _ a others ht hc =>
        obtain ⟨rfl, rfl⟩ := List.cons.inj hs
        exact ⟨done₁, w₁, compileOne_eq_ok.2 ⟨a, rfl, ht⟩, ih.2 ⟨others, rfl, hc⟩⟩

theorem run_eq_ok {sources : List Path} {outcome : Compilation}
    (h : run root sources compiler extension w = .ok outcome w') :
    ∃ begun attempts finished, Check.ensureDirectory root
        { w with context := w.context.apply (.phase .compile),
                 progress := ⟨0, UInt64.ofNat sources.length⟩ } = .ok () begun ∧
      attempts.map Attempt.source = sources ∧
      Course root compiler extension begun {} attempts outcome finished ∧ Quiet finished w' := by
  obtain ⟨finished, hbody, rfl⟩ := within_eq_ok.1 h
  obtain ⟨_, w₁, hp, hbody⟩ := bind_eq_ok.1 hbody
  obtain ⟨_, begun, he, hall⟩ := bind_eq_ok.1 hbody
  obtain ⟨attempts, hs, hc⟩ := compileAll_eq_ok.1 hall
  obtain rfl := modify_eq_ok.1 hp
  exact ⟨begun, attempts, finished, he, hs, hc, rfl, rfl⟩

theorem run_of_course {sources : List Path} {outcome : Compilation} {begun finished : World}
    {attempts : List Attempt} (hbegun : Check.ensureDirectory root
      { w with context := w.context.apply (.phase .compile),
               progress := ⟨0, UInt64.ofNat sources.length⟩ } = .ok () begun)
    (hs : attempts.map Attempt.source = sources)
    (c : Course root compiler extension begun {} attempts outcome finished) :
    ∃ w', run root sources compiler extension w = .ok outcome w' ∧ w'.disk = finished.disk := by
  refine ⟨{ finished with context := w.context }, ?_, rfl⟩
  have hall := compileAll_eq_ok.2 ⟨attempts, hs, c⟩
  exact within_ok (bind_eq_ok.2 ⟨(), _, modify_eq_ok.2 rfl, bind_eq_ok.2 ⟨(), begun, hbegun, hall⟩⟩)

variable {a : Attempt} {attempts : List Attempt}

theorem Turn.adds_of_failed (hc : compiler.KeepsDisk)
    (t : Turn root compiler extension w done a done' w') (h : a.failed) :
    Disk.Adds w.disk w'.disk := by
  obtain ⟨w₁, hs, rfl⟩ := t.settled
  have hasked := (prepare_adds t.prepared).1
  obtain ⟨error, ha⟩ := Attempt.failed_iff.1 h
  rw [ha] at hs
  obtain ⟨-, -, -, hq⟩ := settle_error hs
  rwa [hq.disk, hc a.source t.called]

theorem Turn.disk_of_code (hc : compiler.KeepsDisk)
    (t : Turn root compiler extension w done a done' w') {code : Text} (ha : a.answer = .ok code)
    {top : Path} {place names : Place} (ground : w.disk.Ground top place)
    (hn : Path.AllNames names) (hne : names ≠ [])
    (hpath : Artifact.path root a.source extension = Path.ofSegments (top.base ++ names)) :
    ∃ d, Disk.Adds w.disk d ∧ w'.disk = d.put (place ++ names) (.file (Text.bytes code)) := by
  obtain ⟨w₁, hs, rfl⟩ := t.settled
  have hadds := (prepare_adds t.prepared).1
  rw [ha] at hs
  obtain ⟨-, hw, -⟩ := settle_code hs
  rw [hc a.source t.called, hpath] at hw
  refine ⟨a.asked.disk, hadds, ?_⟩
  exact Disk.write_below (hadds.grows.ground ground) hn hne hw

/-! The same seen from the disk alone. -/

theorem Turn.room (t : Turn root compiler extension w done a done' w') :
    ∃ v w₁, v.disk = w.disk ∧ makeRoom (Artifact.path root a.source extension) v = .ok () w₁ ∧
      a.asked.disk = w₁.disk := by
  obtain ⟨-, w₁, hroom, hq⟩ := prepare_eq_ok t.prepared
  exact ⟨{ w with context := w.context.apply (.file a.source) }, w₁, rfl, hroom, hq.disk⟩

theorem Turn.code (hc : compiler.KeepsDisk) (t : Turn root compiler extension w done a done' w')
    {code : Text} (ha : a.answer = .ok code) : ∃ artifact,
      a.asked.disk.write (Artifact.path root a.source extension) (Text.bytes code) = .ok w'.disk ∧
      w'.disk.canonicalize (Artifact.path root a.source extension) = .ok artifact ∧
      done' = done.addArtifact artifact a.source := by
  obtain ⟨w₁, hs, rfl⟩ := t.settled
  rw [ha] at hs
  obtain ⟨artifact, hwrite, hcanonical, hdone, -⟩ := settle_code hs
  rw [hc a.source t.called] at hwrite
  exact ⟨artifact, hwrite, hcanonical, hdone⟩

theorem Turn.error (hc : compiler.KeepsDisk) (t : Turn root compiler extension w done a done' w')
    {error : CompileError} (ha : a.answer = .error error) : ∃ content,
      a.asked.disk.readText error.file = .ok content ∧
      done' = done.addRecord (recordOf error content) ∧ w'.disk = a.asked.disk := by
  obtain ⟨w₁, hs, rfl⟩ := t.settled
  rw [ha] at hs
  obtain ⟨content, hread, hdone, hq⟩ := settle_error hs
  have hsame := hc a.source t.called
  exact ⟨content, hsame ▸ hread, hdone, hq.disk.trans hsame⟩

theorem Turn.grows (hc : compiler.KeepsDisk) (t : Turn root compiler extension w done a done' w') :
    Disk.Grows w.disk w'.disk := by
  obtain ⟨w₁, hs, rfl⟩ := t.settled
  have hasked := (prepare_adds t.prepared).1.grows
  have hanswered := (settle_grows hs).1
  rw [hc a.source t.called] at hanswered
  exact hasked.trans hanswered

theorem Course.grows (hc : compiler.KeepsDisk)
    (c : Course root compiler extension w done attempts done' w') : Disk.Grows w.disk w'.disk := by
  induction c with
  | nil w done => exact .refl _
  | cons t _ ih => exact (t.grows hc).trans ih

theorem run_grows {sources : List Path} {outcome : Compilation} (hc : compiler.KeepsDisk)
    (h : run root sources compiler extension w = .ok outcome w') : Disk.Grows w.disk w'.disk := by
  obtain ⟨begun, attempts, finished, hbegun, -, course, hquiet⟩ := run_eq_ok h
  have hadds : Disk.Adds w.disk begun.disk := (Check.ensureDirectory_adds hbegun).1
  rw [hquiet.disk]
  exact hadds.grows.trans (course.grows hc)

/-- The record that a failed attempt asks for: it blames the file of the error, which is its own
source, and shows the text that the file had when the compiler answered. -/
def Describes (a : Attempt) (r : Record) : Prop :=
  ∃ error content, a.answer = .error error ∧ a.answered.disk.readText error.file = .ok content ∧
    r = { kind := .compile, file := error.file, error := error.message, source := some error.file,
          content := content, line := max error.line 1 }

theorem Turn.report_of_failed (t : Turn root compiler extension w done a done' w')
    (h : a.failed) : done'.sourceMap = done.sourceMap ∧ done'.compiled = done.compiled ∧
      ∃ r, done'.report = done.report.push r ∧ Describes a r := by
  obtain ⟨w₁, hs, -⟩ := t.settled
  obtain ⟨error, ha⟩ := Attempt.failed_iff.1 h
  rw [ha] at hs
  obtain ⟨content, hcontent, rfl, -⟩ := settle_error hs
  exact ⟨rfl, rfl, _, rfl, error, content, ha, hcontent, rfl⟩

theorem Turn.artifact_of_succeeded (t : Turn root compiler extension w done a done' w')
    (h : a.succeeded) : ∃ artifact,
      w'.disk.canonicalize (Artifact.path root a.source extension) = .ok artifact ∧
        done' = done.addArtifact artifact a.source := by
  obtain ⟨code, ha⟩ := Attempt.succeeded_iff.1 h
  obtain ⟨w₁, hs, rfl⟩ := t.settled
  rw [ha] at hs
  obtain ⟨artifact, -, hcanonical, rfl, -⟩ := settle_code hs
  exact ⟨artifact, hcanonical, rfl⟩

theorem Course.records (c : Course root compiler extension w done attempts done' w') :
    ∃ records, done'.report.records = done.report.records ++ records ∧
      List.Forall₂ Describes (attempts.filter Attempt.failed) records := by
  induction c with
  | nil w done => exact ⟨[], by simp, by simp⟩
  | @cons w w₁ w' done done₁ done' a rest t _ ih =>
    obtain ⟨records, hr, hf⟩ := ih
    by_cases ha : a.failed
    · obtain ⟨-, -, r, hreport, hd⟩ := t.report_of_failed ha
      refine ⟨r :: records, by simp [hr, hreport, Report.push], ?_⟩
      rw [List.filter_cons_of_pos ha]
      exact .cons hd hf
    · have hs : a.succeeded := by simpa [Attempt.failed] using ha
      obtain ⟨artifact, -, rfl⟩ := t.artifact_of_succeeded hs
      refine ⟨records, hr, ?_⟩
      rwa [List.filter_cons_of_neg ha]

/-- Attempts that succeed leave their artifacts, in order, and each is entered into the source map. -/
theorem Course.artifacts (hc : compiler.KeepsDisk)
    (c : Course root compiler extension w done attempts done' w') :
    ∃ artifacts : List (Path × Path),
      done'.sourceMap = artifacts.foldl (fun m entry => m.insert entry.1 entry.2) done.sourceMap ∧
      done'.compiled = done.compiled ++ artifacts.map (·.1) ∧
      List.Forall₂ (fun a entry => entry.2 = a.source ∧
          w'.disk.canonicalize (Artifact.path root a.source extension) = .ok entry.1)
        (attempts.filter Attempt.succeeded) artifacts := by
  induction c with
  | nil w done => exact ⟨[], rfl, by simp, by simp⟩
  | @cons w w₁ w' done done₁ done' a rest t course ih =>
    obtain ⟨artifacts, hm, hcompiled, hf⟩ := ih
    by_cases ha : a.succeeded
    · obtain ⟨artifact, hcanonical, rfl⟩ := t.artifact_of_succeeded ha
      refine ⟨(artifact, a.source) :: artifacts, hm, by simp [hcompiled, addArtifact], ?_⟩
      rw [List.filter_cons_of_pos ha]
      -- later attempts only make the disk grow, so the path keeps leading to its artifact
      exact .cons ⟨rfl, (course.grows hc).canonicalize_eq hcanonical⟩ hf
    · obtain ⟨hmap, hsame, -⟩ := t.report_of_failed (by simpa [Attempt.failed] using ha)
      refine ⟨artifacts, hmap ▸ hm, hsame ▸ hcompiled, ?_⟩
      rwa [List.filter_cons_of_neg ha]

theorem Course.canonicalize_of_succeeded (hc : compiler.KeepsDisk)
    (c : Course root compiler extension w done attempts done' w') (ha : a ∈ attempts)
    (hs : a.succeeded) :
    ∃ artifact, w'.disk.canonicalize (Artifact.path root a.source extension) = .ok artifact := by
  induction c with
  | nil w done => simp at ha
  | cons t course ih =>
    rcases List.mem_cons.1 ha with rfl | ha
    · obtain ⟨artifact, hcanonical, -⟩ := t.artifact_of_succeeded hs
      exact ⟨artifact, (course.grows hc).canonicalize_eq hcanonical⟩
    · exact ih ha

end Compilation

end TemplateCheck
