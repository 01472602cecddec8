import TemplateCheck.Proofs.Agreement

/-!
A computation that ends early has done so at one of its steps, and the steps before it have succeeded.
A compilation stops in the turn of one source: at the directory, at the compiler, at the artifact, or
at the text of a file that an error blames. So an error in a template ends the whole compilation only
if the blamed file cannot be read as text, and the same is true of a finding.
-/
namespace TemplateCheck

def World.enter (w : World) (setting : Setting) : World :=
  { w with context := w.context.apply setting }

namespace CheckM

variable {ε α β : Type} {w : World} {halt : Halt ε} {d : Disk}

/-- The computation ends early in the way that is given, and leaves the disk. -/
def Halts (x : CheckM ε α) (w : World) (halt : Halt ε) (d : Disk) : Prop :=
  ∃ w', x w = .error halt w' ∧ w'.disk = d

theorem ok_or_halts (x : CheckM ε α) (w : World) :
    (∃ a w', x w = .ok a w') ∨ ∃ halt d, Halts x w halt d := by
  cases h : x w with
  | ok a w' => exact .inl ⟨a, w', rfl⟩
  | error halt w' => exact .inr ⟨halt, w'.disk, w', h, rfl⟩

/-- The error that a computation fails with, and something about the world it leaves. -/
def failedWith? (f : World → β) : EStateM.Result (Halt ε) World α → Option (ε × β)
  | .error (.failed e) w => some (e, f w)
  | _ => none

theorem exists_of_failedWith {f : World → β} {x : EStateM.Result (Halt ε) World α} {e : ε} {b : β}
    (h : failedWith? f x = some (e, b)) : ∃ w, x = .error (.failed e) w ∧ f w = b := by
  cases x with
  | ok a w => simp [failedWith?] at h
  | error halt w =>
    cases halt with
    | failed e' =>
      obtain ⟨rfl, hb⟩ := Prod.mk.inj (Option.some.inj h)
      exact ⟨w, rfl, hb⟩
    | crashed c => simp [failedWith?] at h

theorem diskAfter_of_halts {x : CheckM ε α} {halt : Halt ε} {d : Disk} (h : Halts x w halt d) :
    x.diskAfter w = d := by
  obtain ⟨w', h, rfl⟩ := h
  rw [diskAfter, h]

theorem LeavesDisk.disk_of_halts {x : CheckM ε α} {halt : Halt ε} {d : Disk} (h : x.LeavesDisk)
    (hx : Halts x w halt d) : d = w.disk := by
  rw [← h w, diskAfter_of_halts hx]

theorem halts_bind {x : CheckM ε α} {f : α → CheckM ε β} : Halts (x >>= f) w halt d ↔
    Halts x w halt d ∨ ∃ a w₁, x w = .ok a w₁ ∧ Halts (f a) w₁ halt d := by
  unfold Halts
  cases h : x w with
  | ok a w₁ => simp [bind_of_ok h]
  | error halt w₁ => simp [bind_of_error h]

theorem halts_within {setting : Setting} {action : CheckM ε α} :
    Halts (within setting action) w halt d ↔ Halts action (w.enter setting) halt d := by
  unfold Halts within
  simp only [Context.enter, World.enter]
  cases action { w with context := w.context.apply setting } with
  | ok a w₁ => simp
  | error halt w₁ => simp [World.release]

theorem not_halts_pure {a : α} : ¬Halts (pure a : CheckM ε α) w halt d := by
  rintro ⟨w', h, -⟩
  cases h

theorem halts_note {level : Log.Level} {area : Log.Area} {message : Text} {next : Unit → CheckM ε α} :
    Halts (note level area message >>= next) w halt d ↔
      Halts (next ()) { w with log := w.log.push ⟨level, area, message⟩ } halt d := Iff.rfl

theorem halts_note_if {c : Prop} [Decidable c] {level : Log.Level} {area : Log.Area} {message : Text}
    {next : Unit → CheckM ε α} {P : Prop}
    (h : ∀ v : World, v.disk = w.disk → (Halts (next ()) v halt d ↔ P)) :
    Halts (if c then note level area message >>= next else next ()) w halt d ↔ P := by
  split
  · exact halts_note.trans (h _ rfl)
  · exact h w rfl

theorem halts_readDisk {f : Disk → CheckM ε α} :
    Halts (readDisk >>= f) w halt d ↔ Halts (f w.disk) w halt d := Iff.rfl

theorem halts_fail {e : ε} : Halts (fail e : CheckM ε α) w halt d ↔ halt = .failed e ∧ d = w.disk := by
  constructor
  · rintro ⟨w', h, rfl⟩
    cases h
    exact ⟨rfl, rfl⟩
  · rintro ⟨rfl, rfl⟩
    exact ⟨w, rfl, rfl⟩

theorem halts_crash {payload : Text} (h : Halts (crash payload : CheckM ε α) w halt d) :
    ∃ c, halt = .crashed c := by
  obtain ⟨w', h, -⟩ := h
  cases h
  exact ⟨_, rfl⟩

end CheckM

namespace Check

open CheckM

variable {p : Path} {w : World} {halt : Halt CheckError} {d : Disk}

theorem halts_readText : Halts (readText p) w halt d ↔
    ∃ fault, w.disk.readText p = .error fault ∧
      halt = .failed (.io "Failed to read file" p (.fault fault)) ∧ d = w.disk := by
  rw [readText, halts_readDisk]
  cases w.disk.readText p with
  | ok text => simp [not_halts_pure]
  | error fault => simp [halts_fail]

theorem halts_writeText {text : Text} (h : Halts (writeText p text) w halt d) : d = w.disk := by
  obtain ⟨w', h, rfl⟩ := h
  rw [writeText, readDisk_bind] at h
  cases hw : w.disk.write p (Text.bytes text) with
  | ok disk =>
    rw [hw] at h
    cases h
  | error fault =>
    rw [hw] at h
    cases h
    rfl

theorem halts_ensureDirectory (h : Halts (ensureDirectory p) w halt d) : Disk.Adds w.disk d := by
  obtain ⟨w', h, rfl⟩ := h
  rw [ensureDirectory, readDisk_bind] at h
  have hadds := Disk.makeLineage_adds p.lineage w.disk
  rw [← Disk.makeDirectories] at hadds
  cases he : w.disk.pathExists p with
  | true =>
    simp only [he] at h
    cases h
  | false =>
    cases hm : w.disk.makeDirectories p with
    | mk result disk =>
      rw [hm] at hadds
      simp only [he, hm] at h
      cases result with
      | ok => cases h
      | error fault =>
        cases h
        exact hadds

end Check

namespace Compilation

open CheckM

section Turns

variable (root : Path) (compiler : Compiler) (extension : Text)

/-- The compiler is asked in the turn of a source, and answers. -/
structure Answers (w : World) (a : Attempt) : Prop where
  prepared : prepare root extension a.source (w.enter (.file a.source)) =
    .ok (Artifact.path root a.source extension) a.asked
  called : compiler.compile a.source a.asked = .ok a.answer a.answered

/-- What stops a turn and has nothing to do with an error in a template: there can be no artifact of
that name, its directory cannot be made, the compiler fails, or the artifact cannot be written or
found. -/
inductive Obstacle (w : World) (source : Path) (halt : Halt CheckError) (d : Disk) : Prop where
  | name (crash : Crash) (crashed : halt = .crashed crash)
      (h : Halts (Artifact.locate root source extension) (w.enter (.file source)) halt d)
  | directory (valid : Artifact.validExtension extension)
      (h : Halts (makeRoom (Artifact.path root source extension)) (w.enter (.file source)) halt d)
  | compiler {asked : World}
      (prepared : prepare root extension source (w.enter (.file source)) =
        .ok (Artifact.path root source extension) asked)
      (h : Halts (compiler.compile source) asked halt d)
  | write {a : Attempt} {code : Text} (answers : Answers root compiler extension w a)
      (turn : a.source = source) (answer : a.answer = .ok code)
      (h : Halts (Check.writeText (Artifact.path root source extension) code) a.answered halt d)
  | resolve {a : Attempt} {code : Text} {written : World}
      (answers : Answers root compiler extension w a) (turn : a.source = source)
      (answer : a.answer = .ok code)
      (writes : Check.writeText (Artifact.path root source extension) code a.answered =
        .ok () written)
      (h : Halts (Check.canonicalize (Artifact.path root source extension)) written halt d)

end Turns

variable {root : Path} {compiler : Compiler} {extension : Text} {w : World}
  {done : Compilation} {source target : Path} {sources : List Path} {halt : Halt CheckError} {d : Disk}

theorem locate_eq_ok {w' : World} : (Artifact.locate root source extension : Check Path) w =
    .ok target w' ↔ Artifact.validExtension extension ∧
      target = Artifact.path root source extension ∧ w' = w := by
  unfold Artifact.locate
  split
  next hv => simp [pure_eq_ok, hv]
  next hv => simp [crash_ne_ok, hv]

theorem halts_locate (h : Halts (Artifact.locate root source extension) w halt d) :
    ∃ crash, halt = .crashed crash := by
  unfold Artifact.locate at h
  split at h
  · exact absurd h not_halts_pure
  · exact halts_crash h

theorem halts_prepare : Halts (prepare root extension source) w halt d ↔
    Halts (Artifact.locate root source extension) w halt d ∨
      Artifact.validExtension extension ∧
        Halts (makeRoom (Artifact.path root source extension)) w halt d := by
  rw [prepare, halts_bind]
  refine or_congr_right ⟨?_, ?_⟩
  · rintro ⟨_, w₁, hl, h⟩
    obtain ⟨hv, rfl, rfl⟩ := locate_eq_ok.1 hl
    rcases halts_bind.1 h with h | ⟨_, w₂, -, w', h, -⟩
    · exact ⟨hv, h⟩
    · cases h
  · rintro ⟨hv, h⟩
    exact ⟨_, w, locate_eq_ok.2 ⟨hv, rfl, rfl⟩, halts_bind.2 (.inl h)⟩

theorem halts_settle_code {code : Text} : Halts (settle done source target (.ok code)) w halt d ↔
    Halts (Check.writeText target code) w halt d ∨
      ∃ w₁, Check.writeText target code w = .ok () w₁ ∧ Halts (Check.canonicalize target) w₁ halt d := by
  rw [settle, halts_bind]
  refine or_congr_right ⟨?_, ?_⟩
  · rintro ⟨_, w₁, hw, h⟩
    rw [halts_bind] at h
    rcases h with h | ⟨_, w₂, -, w', h, -⟩
    · exact ⟨w₁, hw, h⟩
    · cases h
  · rintro ⟨w₁, hw, h⟩
    exact ⟨(), w₁, hw, halts_bind.2 (.inl h)⟩

theorem halts_settle_error {error : CompileError} :
    Halts (settle done source target (.error error)) w halt d ↔
      Halts (Check.readText error.file) w halt d := by
  rw [settle, halts_note, halts_bind, Check.halts_readText, Check.halts_readText]
  refine or_iff_left ?_
  rintro ⟨_, w₂, -, w', h, -⟩
  cases h

/-- One turn stops at an obstacle, or at the file that an error blames. -/
theorem halts_compileOne : Halts (compileOne root compiler extension done source) w halt d ↔
    Obstacle root compiler extension w source halt d ∨
      ∃ a error, Answers root compiler extension w a ∧ a.source = source ∧
        a.answer = .error error ∧ Halts (Check.readText error.file) a.answered halt d := by
  rw [compileOne, halts_within, halts_bind, halts_prepare]
  constructor
  · rintro ((h | ⟨hv, h⟩) | ⟨target, asked, hp, h⟩)
    · obtain ⟨crash, hcrash⟩ := halts_locate h
      exact .inl (.name crash hcrash h)
    · exact .inl (.directory hv h)
    · obtain ⟨rfl, -⟩ := prepare_eq_ok hp
      rw [halts_bind] at h
      rcases h with h | ⟨answer, answered, hcall, h⟩
      · exact .inl (.compiler hp h)
      · have ha : Answers root compiler extension w ⟨source, asked, answer, answered⟩ := ⟨hp, hcall⟩
        cases answer with
        | ok code =>
          rcases halts_settle_code.1 h with h | ⟨written, hw, h⟩
          · exact .inl (.write ha rfl rfl h)
          · exact .inl (.resolve ha rfl rfl hw h)
        | error error => exact .inr ⟨_, error, ha, rfl, rfl, halts_settle_error.1 h⟩
  · have hsettle : ∀ {a : Attempt}, Answers root compiler extension w a →
        Halts (settle done a.source (Artifact.path root a.source extension) a.answer) a.answered halt d →
        ∃ target asked, prepare root extension a.source (w.enter (.file a.source)) = .ok target asked ∧
          Halts (compiler.compile a.source >>= fun answer => settle done a.source target answer)
            asked halt d :=
      fun ha h => ⟨_, _, ha.prepared, halts_bind.2 (.inr ⟨_, _, ha.called, h⟩)⟩
    rintro (h | ⟨a, error, ha, rfl, hanswer, h⟩)
    · cases h with
      | name _ _ h => exact .inl (.inl h)
      | directory hv h => exact .inl (.inr ⟨hv, h⟩)
      | compiler hp h => exact .inr ⟨_, _, hp, halts_bind.2 (.inl h)⟩
      | write ha hs hcode h =>
        subst hs
        exact .inr (hsettle ha (hcode ▸ halts_settle_code.2 (.inl h)))
      | resolve ha hs hcode hw h =>
        subst hs
        exact .inr (hsettle ha (hcode ▸ halts_settle_code.2 (.inr ⟨_, hw, h⟩)))
    · exact .inr (hsettle ha (hanswer ▸ halts_settle_error.2 h))

theorem halts_compileAll : Halts (compileAll root compiler extension done sources) w halt d ↔
    ∃ before source rest done₁ v, sources = before.map Attempt.source ++ source :: rest ∧
      Course root compiler extension w done before done₁ v ∧
      Halts (compileOne root compiler extension done₁ source) v halt d := by
  induction sources generalizing done w with
  | nil =>
    rw [compileAll]
    simp [not_halts_pure]
  | cons first others ih =>
    rw [compileAll, halts_bind]
    constructor
    · rintro (h | ⟨done₁, w₁, ho, h⟩)
      · exact ⟨[], first, others, done, w, rfl, .nil _ _, h⟩
      · obtain ⟨a, rfl, ht⟩ := compileOne_eq_ok.1 ho
        obtain ⟨before, source, rest, done₂, v, rfl, hc, h⟩ := ih.1 h
        exact ⟨a :: before, source, rest, done₂, v, rfl, .cons ht hc, h⟩
    · rintro ⟨before, source, rest, done₁, v, hs, hc, h⟩
      cases hc with
      | nil =>
        obtain ⟨rfl, rfl⟩ := List.cons.inj hs
        exact .inl h
      | @cons _ w₁ _ _ done₂ _ a others' ht hc =>
        obtain ⟨rfl, rfl⟩ := List.cons.inj hs
        exact .inr ⟨done₂, w₁, compileOne_eq_ok.2 ⟨a, rfl, ht⟩,
          ih.2 ⟨others', source, rest, done₁, v, rfl, hc, h⟩⟩

/-- The turn of a source comes in the world that is given: all sources before it have had theirs. -/
def ComesTo (root : Path) (sources : List Path) (compiler : Compiler) (extension : Text) (w : World)
    (source : Path) (v : World) : Prop :=
  ∃ begun before rest done, Check.ensureDirectory root (opened w sources) = .ok () begun ∧
    sources = before.map Attempt.source ++ source :: rest ∧
    Course root compiler extension begun {} before done v

/-- The compilation gets as far as an answer of the compiler. -/
def Reaches (root : Path) (sources : List Path) (compiler : Compiler) (extension : Text) (w : World)
    (a : Attempt) : Prop :=
  ∃ v, ComesTo root sources compiler extension w a.source v ∧ Answers root compiler extension v a

/-- A compilation stops at its root, at an obstacle in some turn, or at a file that an error blames. -/
theorem halts_run : Halts (run root sources compiler extension) w halt d ↔
    Halts (Check.ensureDirectory root) (opened w sources) halt d ∨
    (∃ source v, ComesTo root sources compiler extension w source v ∧
      Obstacle root compiler extension v source halt d) ∨
    ∃ a error, Reaches root sources compiler extension w a ∧ a.answer = .error error ∧
      Halts (Check.readText error.file) a.answered halt d := by
  have hbegin : Halts (run root sources compiler extension) w halt d ↔
      Halts (Check.ensureDirectory root >>= fun _ => compileAll root compiler extension {} sources)
        (opened w sources) halt d := by
    rw [run, halts_within]
    rfl
  rw [hbegin, halts_bind]
  refine or_congr_right ?_
  constructor
  · rintro ⟨_, begun, hbegun, h⟩
    obtain ⟨before, source, rest, done, v, hs, hc, h⟩ := halts_compileAll.1 h
    have hcomes : ComesTo root sources compiler extension w source v :=
      ⟨begun, before, rest, done, hbegun, hs, hc⟩
    rcases halts_compileOne.1 h with h | ⟨a, error, ha, rfl, hanswer, h⟩
    · exact .inl ⟨source, v, hcomes, h⟩
    · exact .inr ⟨a, error, ⟨v, hcomes, ha⟩, hanswer, h⟩
  · rintro (⟨source, v, ⟨begun, before, rest, done, hbegun, hs, hc⟩, h⟩ |
      ⟨a, error, ⟨v, ⟨begun, before, rest, done, hbegun, hs, hc⟩, ha⟩, hanswer, h⟩)
    · exact ⟨(), begun, hbegun, halts_compileAll.2
        ⟨before, source, rest, done, v, hs, hc, halts_compileOne.2 (.inl h)⟩⟩
    · exact ⟨(), begun, hbegun, halts_compileAll.2 ⟨before, a.source, rest, done, v, hs, hc,
        halts_compileOne.2 (.inr ⟨a, error, ha, rfl, hanswer, h⟩)⟩⟩

end Compilation

def Disk.Undecodable (d : Disk) (p : Path) : Prop :=
  ∃ body, d.readBytes p = .ok body ∧ Text.ofBytes? body = none

theorem Disk.readText_eq_error {d : Disk} {p : Path} {fault : Fault} (h : d.isFile p) :
    d.readText p = .error fault ↔ d.Undecodable p ∧ fault = .notText := by
  obtain ⟨place, body, hr, hf⟩ := Disk.isFile_iff.1 h
  have hbody : d.readBytes p = .ok body := by simp [readBytes, hr, hf]
  cases ht : Text.ofBytes? body <;> simp [readText, Undecodable, hbody, ht, eq_comm]

theorem Disk.Grows.isFile {d d' : Disk} (h : Disk.Grows d d') {p : Path} (hf : d.isFile p) :
    d'.isFile p := by
  obtain ⟨place, body, hr, hbody⟩ := Disk.isFile_iff.1 hf
  obtain ⟨body', hbody'⟩ := h.file hbody
  exact Disk.isFile_iff.2 ⟨place, body', h.resolve_eq hr, hbody'⟩

def CheckError.unreadable (file : Path) : CheckError :=
  .io "Failed to read file" file (.fault .notText)

theorem Check.halts_readText_of_isFile {p : Path} {w : World} {halt : Halt CheckError} {d : Disk}
    (h : w.disk.isFile p) : CheckM.Halts (Check.readText p) w halt d ↔
      w.disk.Undecodable p ∧ halt = .failed (.unreadable p) ∧ d = w.disk := by
  rw [Check.halts_readText]
  simp only [Disk.readText_eq_error h]
  constructor
  · rintro ⟨_, ⟨hu, rfl⟩, hhalt, hd⟩
    exact ⟨hu, hhalt, hd⟩
  · rintro ⟨hu, hhalt, hd⟩
    exact ⟨.notText, ⟨hu, rfl⟩, hhalt, hd⟩

namespace Compilation

open CheckM

section Defects

variable (root : Path) (sources : List Path) (compiler : Compiler) (extension : Text) (w : World)

/-- Each error that the compiler finds in a template blames a file that is there. -/
def BlamesFiles : Prop :=
  ∀ a error, Reaches root sources compiler extension w a → a.answer = .error error →
    a.answered.disk.isFile error.file

/-- The compilation cannot make its root, or meets an obstacle in some turn. -/
def Hindered (halt : Halt CheckError) (d : Disk) : Prop :=
  Halts (Check.ensureDirectory root) (opened w sources) halt d ∨
    ∃ source v, ComesTo root sources compiler extension w source v ∧
      Obstacle root compiler extension v source halt d

/-- An error blames a file that is no text, and the compilation fails with it. -/
def Undecoded (halt : Halt CheckError) (d : Disk) : Prop :=
  ∃ a error, Reaches root sources compiler extension w a ∧ a.answer = .error error ∧
    a.answered.disk.Undecodable error.file ∧ halt = .failed (.unreadable error.file) ∧
    d = a.answered.disk

/-- Either the compilation stops, for one of two reasons, or it gets through all sources and reports
each error. -/
structure ReportsErrors : Prop where
  stops : ∀ halt d, Halts (run root sources compiler extension) w halt d ↔
    Hindered root sources compiler extension w halt d ∨
      Undecoded root sources compiler extension w halt d
  ends : (∃ halt d, Halts (run root sources compiler extension) w halt d) ∨
    ∃ outcome w' attempts, run root sources compiler extension w = .ok outcome w' ∧
      Performed root sources compiler extension w attempts outcome w' ∧
      List.Forall₂ Describes (attempts.filter Attempt.failed) outcome.report.records

end Defects

variable {root : Path} {sources : List Path} {compiler : Compiler} {extension : Text} {w w' : World}
  {attempts : List Attempt} {outcome : Compilation} {a : Attempt} {source : Path} {v : World}

theorem Performed.records
    (h : Performed root sources compiler extension w attempts outcome w') :
    List.Forall₂ Describes (attempts.filter Attempt.failed) outcome.report.records := by
  obtain ⟨-, begun, finished, -, hcourse, -⟩ := h
  obtain ⟨records, hrecords, hall⟩ := hcourse.records
  rwa [hrecords]

theorem reportsErrors (hb : BlamesFiles root sources compiler extension w) :
    ReportsErrors root sources compiler extension w where
  stops halt d := by
    rw [halts_run, ← or_assoc]
    refine or_congr_right (exists_congr fun a => exists_congr fun error => ?_)
    refine and_congr_right fun ha => and_congr_right fun hanswer => ?_
    exact Check.halts_readText_of_isFile (hb a error ha hanswer)
  ends := by
    rcases ok_or_halts (run root sources compiler extension) w with ⟨outcome, w', h⟩ | h
    · obtain ⟨attempts, hp⟩ := exists_performed h
      exact .inr ⟨outcome, w', attempts, h, hp, hp.records⟩
    · exact .inl h

theorem ComesTo.grows (hc : compiler.KeepsDisk)
    (h : ComesTo root sources compiler extension w source v) : Disk.Grows w.disk v.disk := by
  obtain ⟨begun, before, rest, done, hbegun, -, hcourse⟩ := h
  exact (Check.ensureDirectory_adds hbegun).1.grows.trans (hcourse.grows hc)

theorem Answers.adds (hc : compiler.KeepsDisk) (h : Answers root compiler extension w a) :
    Disk.Adds w.disk a.answered.disk := by
  rw [hc a.source h.called]
  exact (prepare_adds h.prepared).1

theorem blamesFiles_of_own (hc : compiler.KeepsDisk)
    (hown : ∀ {path v error v'}, compiler.compile path v = .ok (.error error) v' → error.file = path)
    (hs : ∀ source ∈ sources, w.disk.isFile source) :
    BlamesFiles root sources compiler extension w := by
  rintro a error ⟨v, hcomes, hanswers⟩ hanswer
  have ⟨_, before, rest, _, _, hsplit, _⟩ := hcomes
  rw [hown (hanswer ▸ hanswers.called)]
  refine ((hcomes.grows hc).trans (hanswers.adds hc).grows).isFile (hs a.source ?_)
  rw [hsplit]
  simp

end Compilation

namespace Scripted

open CheckM

def Rule.own : Rule → Bool
  | .mistake _ _ (some _) => false
  | _ => true

theorem file_of_error {rules : List (Text × Rule)} (hrules : ∀ entry ∈ rules, entry.2.own)
    {path : Path} {w w' : World} {error : CompileError}
    (h : (compiler rules).compile path w = .ok (.error error) w') : error.file = path := by
  cases hrule : ruleFor? rules path with
  | some rule =>
    obtain ⟨name, -, hlookup⟩ := Option.bind_eq_some_iff.1 hrule
    obtain ⟨before, rest, rfl, -⟩ := List.lookup_eq_some_iff.1 hlookup
    have hown : rule.own := hrules (Path.display ⟨name⟩, rule) (by simp)
    simp only [compiler, hrule] at h
    cases rule with
    | code text => simp [obey, pure_eq_ok] at h
    | crash payload => exact absurd h crash_ne_ok
    | fatal program reason => exact absurd h fail_ne_ok
    | mistake message line file =>
      obtain rfl : file = none := by cases file <;> simp_all [Rule.own]
      obtain ⟨herror, -⟩ := pure_eq_ok.1 h
      rw [Except.error.inj herror]
      rfl
  | none =>
    simp only [compiler, hrule] at h
    obtain ⟨text, w₁, -, hp⟩ := bind_eq_ok.1 h
    simp [pure_eq_ok] at hp

end Scripted

namespace Linting

open CheckM

def collect (root : Path) (linter : Linter) : Check (List Finding) := do
  record (.files root)
  let files ← linter.files root
  note .info .linting ("Linting " ++ Text.decimal files.length ++ " compiled file(s)")
  record (.lint files)
  linter.lint files

theorem run_eq_collect (root : Path) (linter : Linter) (m : SourceMap) : run root linter m =
    within (.phase .lint) (collect root linter >>= fun findings =>
      recordAll m findings >>= fun records => return ⟨records⟩) := by
  simp only [run, collect, bind_assoc]

variable {root : Path} {linter : Linter} {m : SourceMap} {w w' : World} {finding : Finding}
  {findings : List Finding} {halt : Halt CheckError} {d : Disk}

theorem halts_recordFinding :
    Halts (recordFinding m finding) w halt d ↔ Halts (Check.readText finding.file) w halt d := by
  rw [recordFinding, halts_within, halts_readDisk]
  refine halts_note_if fun v hv => ?_
  rw [halts_bind, Check.halts_readText, Check.halts_readText, hv]
  refine or_iff_left ?_
  rintro ⟨_, w₁, -, h⟩
  exact not_halts_pure h

/-- The first file that cannot be read stops the records. -/
theorem halts_recordAll : Halts (recordAll m findings) w halt d ↔
    ∃ before finding rest, findings = before ++ finding :: rest ∧
      (∀ f ∈ before, ∃ content, w.disk.readText f.file = .ok content) ∧
      Halts (Check.readText finding.file) w halt d := by
  induction findings generalizing w with
  | nil => simp [recordAll, not_halts_pure]
  | cons first others ih =>
    rw [recordAll, halts_bind, halts_recordFinding]
    constructor
    · rintro (h | ⟨r, w₁, hr, h⟩)
      · exact ⟨[], first, others, rfl, by simp, h⟩
      · obtain ⟨hquiet, content, hcontent, -⟩ := recordFinding_eq_ok hr
        rcases halts_bind.1 h with h | ⟨_, w₂, -, h⟩
        · obtain ⟨before, finding, rest, rfl, hbefore, h⟩ := ih.1 h
          rw [Check.halts_readText, hquiet.disk] at h
          rw [hquiet.disk] at hbefore
          refine ⟨first :: before, finding, rest, rfl, ?_, Check.halts_readText.2 h⟩
          exact List.forall_mem_cons.2 ⟨⟨content, hcontent⟩, hbefore⟩
        · exact absurd h not_halts_pure
    · rintro ⟨before, finding, rest, hsplit, hbefore, h⟩
      cases before with
      | nil =>
        obtain ⟨rfl, rfl⟩ := List.cons.inj hsplit
        exact .inl h
      | cons f before =>
        obtain ⟨rfl, rfl⟩ := List.cons.inj hsplit
        obtain ⟨⟨content, hcontent⟩, hbefore⟩ := List.forall_mem_cons.1 hbefore
        rcases ok_or_halts (recordFinding m first) w with ⟨r, w₁, hr⟩ | ⟨halt', d', h'⟩
        · have hquiet := (recordFinding_eq_ok hr).1
          refine .inr ⟨r, w₁, hr, halts_bind.2 (.inl (ih.2 ⟨before, finding, rest, rfl, ?_, ?_⟩))⟩
          · rwa [hquiet.disk]
          · rw [Check.halts_readText, hquiet.disk]
            exact Check.halts_readText.1 h
        · rw [halts_recordFinding, Check.halts_readText, hcontent] at h'
          obtain ⟨fault, hfault, -⟩ := h'
          cases hfault

section Defects

variable (root : Path) (linter : Linter) (m : SourceMap) (w : World)

def BlamesFiles : Prop :=
  ∀ findings v, collect root linter (w.enter (.phase .lint)) = .ok findings v →
    ∀ finding ∈ findings, v.disk.isFile finding.file

/-- The first finding in a file that is no text fails the stage. -/
def Undecoded (halt : Halt CheckError) (d : Disk) : Prop :=
  ∃ before finding rest v,
    collect root linter (w.enter (.phase .lint)) = .ok (before ++ finding :: rest) v ∧
    (∀ f ∈ before, ¬v.disk.Undecodable f.file) ∧ v.disk.Undecodable finding.file ∧
    halt = .failed (.unreadable finding.file) ∧ d = v.disk

/-- Either the stage stops, because the linter does or for a file that is no text, or it reports each
finding. -/
structure ReportsFindings : Prop where
  stops : ∀ halt d, Halts (run root linter m) w halt d ↔
    Halts (collect root linter) (w.enter (.phase .lint)) halt d ∨ Undecoded root linter w halt d
  ends : (∃ halt d, Halts (run root linter m) w halt d) ∨
    ∃ report w' findings v, run root linter m w = .ok report w' ∧
      collect root linter (w.enter (.phase .lint)) = .ok findings v ∧
      List.Forall₂ (fun finding r => ∃ content, v.disk.readText finding.file = .ok content ∧
        r = recordOf finding (m.resolve v.disk finding.file) content) findings report.records

end Defects

theorem halts_recordAll_of_isFile (hfiles : ∀ f ∈ findings, w.disk.isFile f.file) :
    Halts (recordAll m findings) w halt d ↔
      ∃ before finding rest, findings = before ++ finding :: rest ∧
        (∀ f ∈ before, ¬w.disk.Undecodable f.file) ∧ w.disk.Undecodable finding.file ∧
        halt = .failed (.unreadable finding.file) ∧ d = w.disk := by
  have hreadable : ∀ f ∈ findings, (∃ content, w.disk.readText f.file = .ok content) ↔
      ¬w.disk.Undecodable f.file := by
    intro f hf
    have herror : w.disk.readText f.file = .error .notText ↔ _ := Disk.readText_eq_error (hfiles f hf)
    cases hr : w.disk.readText f.file with
    | ok content => simpa [hr] using herror
    | error fault =>
      have hu := ((Disk.readText_eq_error (hfiles f hf)).1 hr).1
      simp [hu]
  rw [halts_recordAll]
  refine exists_congr fun before => exists_congr fun finding => exists_congr fun rest => ?_
  refine and_congr_right fun hsplit => ?_
  subst hsplit
  refine and_congr (forall₂_congr fun f hf => hreadable f (by simp [hf])) ?_
  exact Check.halts_readText_of_isFile (hfiles finding (by simp))

theorem reportsFindings (hb : BlamesFiles root linter w) : ReportsFindings root linter m w where
  stops halt d := by
    rw [run_eq_collect, halts_within, halts_bind]
    refine or_congr_right ⟨?_, ?_⟩
    · rintro ⟨findings, v, hcollect, h⟩
      rcases halts_bind.1 h with h | ⟨_, w₁, -, h⟩
      · obtain ⟨before, finding, rest, rfl, hfirst⟩ :=
          (halts_recordAll_of_isFile (hb findings v hcollect)).1 h
        exact ⟨before, finding, rest, v, hcollect, hfirst⟩
      · exact absurd h not_halts_pure
    · rintro ⟨before, finding, rest, v, hcollect, h⟩
      refine ⟨_, v, hcollect, halts_bind.2 (.inl ?_)⟩
      exact (halts_recordAll_of_isFile (hb _ v hcollect)).2 ⟨before, finding, rest, rfl, h⟩
  ends := by
    rcases ok_or_halts (run root linter m) w with ⟨report, w', h⟩ | h
    · have hbody := h
      rw [run_eq_collect] at hbody
      obtain ⟨w₁, hbody, -⟩ := within_eq_ok.1 hbody
      obtain ⟨findings, v, hcollect, hbody⟩ := bind_eq_ok.1 hbody
      obtain ⟨records, w₂, hrecords, hbody⟩ := bind_eq_ok.1 hbody
      obtain ⟨rfl, -⟩ := pure_eq_ok.1 hbody
      exact .inr ⟨_, w', findings, v, h, hcollect, (recordAll_eq_ok hrecords).2⟩
    · exact .inl h

end Linting

open CheckM

section Defects

variable {root compiled : Path} {sources : List Path} {compiler : Compiler} {extension : Text}
  {linter : Linter} {m : SourceMap} {w v : World}

/-- Where errors and findings blame files that are there, they are reported and nothing else stops
for them, save that a blamed file whose bytes are no text fails the stage. -/
theorem defects_reported_unless_undecodable
    (hcompile : Compilation.BlamesFiles root sources compiler extension w)
    (hlint : Linting.BlamesFiles compiled linter v) :
    Compilation.ReportsErrors root sources compiler extension w ∧
      Linting.ReportsFindings compiled linter m v :=
  ⟨Compilation.reportsErrors hcompile, Linting.reportsFindings hlint⟩

end Defects

/-- The template `b.latte` is a file like the others, but its only byte is no text. -/
def strayByteDisk : Disk where
  entries := [(["t"], .directory), (["t", "a.latte"], .file (Text.bytes "A")),
    (["t", "b.latte"], .file ⟨#[0xff]⟩), (["t", "c.latte"], .file (Text.bytes "C")),
    (["out"], .directory)]
  workdir := []
  workdir_names := Path.allNames_nil

def strayByteSources : List Path := ["/t/a.latte", "/t/b.latte", "/t/c.latte"]

def strayByteCompiler : Compiler :=
  Scripted.compiler [("a.latte", .mistake "broken" 3 none), ("b.latte", .mistake "broken" 1 none)]

def strayByteLinter : Linter :=
  Scripted.linter { extra := [⟨"/t/a.latte", 1, "odd"⟩, ⟨"/t/b.latte", 1, "odd"⟩] }

theorem strayByte_compiler_blames :
    Compilation.BlamesFiles "out" strayByteSources strayByteCompiler "php" { disk := strayByteDisk } :=
  Compilation.blamesFiles_of_own (Scripted.compiler_keepsDisk _) (Scripted.file_of_error (by decide))
    (by decide +kernel)

theorem strayByte_linter_blames :
    Linting.BlamesFiles "/out" strayByteLinter { disk := strayByteDisk } := by
  intro findings v hcollect
  have hfiles : outcome? (fun findings v => findings.all fun f => v.disk.isFile f.file)
      (Linting.collect "/out" strayByteLinter
        (World.enter { disk := strayByteDisk } (.phase .lint))) = some true := by
    decide +kernel
  rw [hcollect] at hfiles
  simpa [outcome?] using hfiles

theorem defects_reported_stray_byte :
    Compilation.BlamesFiles "out" strayByteSources strayByteCompiler "php" { disk := strayByteDisk } ∧
    Linting.BlamesFiles "/out" strayByteLinter { disk := strayByteDisk } ∧
    Compilation.ReportsErrors "out" strayByteSources strayByteCompiler "php"
      { disk := strayByteDisk } ∧
    Linting.ReportsFindings "/out" strayByteLinter {} { disk := strayByteDisk } :=
  ⟨strayByte_compiler_blames, strayByte_linter_blames,
    defects_reported_unless_undecodable strayByte_compiler_blames strayByte_linter_blames⟩

/-- The error in `b.latte` is one to be reported, yet it ends the compilation, and the compiler is
never asked about `c.latte`. A finding in `b.latte` ends the lint stage. -/
theorem undecodable_template_ends_batch :
    strayByteDisk.isFile "/t/b.latte" ∧
    (∃ w', Compilation.run "out" strayByteSources strayByteCompiler "php" { disk := strayByteDisk } =
        .error (.failed (.unreadable "/t/b.latte")) w' ∧
      w'.calls.map Call.request = #[.compile "/t/a.latte", .compile "/t/b.latte"]) ∧
    ∃ w', Linting.run "/out" strayByteLinter {} { disk := strayByteDisk } =
      .error (.failed (.unreadable "/t/b.latte")) w' := by
  refine ⟨by decide +kernel, exists_of_failedWith ?_, exists_of_failure ?_⟩
  · decide +kernel
  · decide +kernel

end TemplateCheck
