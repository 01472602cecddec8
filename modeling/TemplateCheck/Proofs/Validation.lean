import TemplateCheck.Proofs.ExitStatus
import TemplateCheck.Proofs.Union

/-!
Settings are accepted exactly when each key of the document is usable, and refused in the name of the
first key that is not. Once they are accepted no check finds fault with them: an artifact can always be
named, and every exclude pattern can be read.
-/
namespace TemplateCheck

namespace Bootstrap

def Visible (t : Text) : Prop := ∃ c ∈ t, Text.blank c = false

def Bare (extension : Text) : Prop :=
  extension ≠ [] ∧ '.' ∉ extension ∧ '/' ∉ extension ∧ '\\' ∉ extension

def Locating (pattern : Text) : Prop :=
  ∃ expr, Pattern.read? pattern = some expr ∧ "message".toList ∈ expr.names ∧
    "line".toList ∈ expr.names

structure Usable (c : BootstrapConfig) : Prop where
  compilerProgram : Visible c.compiler.program
  linterProgram : Visible c.linter.program
  templateExtension : Bare c.compiler.templateExtension
  targetExtension : Bare c.compiler.targetExtension
  differ : c.compiler.templateExtension ≠ c.compiler.targetExtension
  compilerPattern : Locating c.compiler.errorPattern
  linterPattern : Locating c.linter.errorPattern
  exclude : Discovery.ValidGlobs c.discovery.exclude

/-- The keys of a document that can make it unusable. -/
inductive Key where
  | compilerProgram
  | linterProgram
  | templateExtension
  | targetExtension
  | compilerPattern
  | linterPattern
  | exclude
  deriving DecidableEq, Repr

def Key.name : Key → Text
  | compilerProgram => "compiler.program"
  | linterProgram => "linter.program"
  | templateExtension => "compiler.template_extension"
  | targetExtension => "compiler.target_extension"
  | compilerPattern => "compiler.error_pattern"
  | linterPattern => "linter.error_pattern"
  | exclude => "discovery.exclude"

def Key.inOrder : List Key :=
  [compilerProgram, linterProgram, templateExtension, targetExtension, compilerPattern, linterPattern,
    exclude]

/-- What is wrong with a key. Two extensions that are the same are held against the first of them. -/
def Offends (c : BootstrapConfig) : Key → Prop
  | .compilerProgram => ¬Visible c.compiler.program
  | .linterProgram => ¬Visible c.linter.program
  | .templateExtension => ¬Bare c.compiler.templateExtension ∨
      c.compiler.templateExtension = c.compiler.targetExtension
  | .targetExtension => ¬Bare c.compiler.targetExtension
  | .compilerPattern => ¬Locating c.compiler.errorPattern
  | .linterPattern => ¬Locating c.linter.errorPattern
  | .exclude => ¬Discovery.ValidGlobs c.discovery.exclude

def FirstOffence (c : BootstrapConfig) (key : Key) : Prop :=
  ∃ before after, Key.inOrder = before ++ key :: after ∧ Offends c key ∧
    ∀ other ∈ before, ¬Offends c other

variable {c : BootstrapConfig} {b : Bootstrap} {origin : Path} {flaw : Flaw}

theorem usable_iff : Usable c ↔ ∀ key, ¬Offends c key := by
  constructor
  · intro h key
    cases key with
    | compilerProgram => exact not_not_intro h.compilerProgram
    | linterProgram => exact not_not_intro h.linterProgram
    | templateExtension => exact not_or.2 ⟨not_not_intro h.templateExtension, h.differ⟩
    | targetExtension => exact not_not_intro h.targetExtension
    | compilerPattern => exact not_not_intro h.compilerPattern
    | linterPattern => exact not_not_intro h.linterPattern
    | exclude => exact not_not_intro h.exclude
  · intro h
    obtain ⟨hbare, hdiffer⟩ := not_or.1 (h .templateExtension)
    exact ⟨not_not.1 (h .compilerProgram), not_not.1 (h .linterProgram), not_not.1 hbare,
      not_not.1 (h .targetExtension), hdiffer, not_not.1 (h .compilerPattern),
      not_not.1 (h .linterPattern), not_not.1 (h .exclude)⟩

theorem FirstOffence.not_usable {key : Key} (h : FirstOffence c key) : ¬Usable c := by
  obtain ⟨-, -, -, hkey, -⟩ := h
  exact fun hc => usable_iff.1 hc key hkey

theorem isBlank_iff {t : Text} : Text.isBlank t ↔ ¬Visible t := by
  simp [Text.isBlank, Visible]

theorem isBareExtension_iff {t : Text} : isBareExtension t ↔ Bare t := Path.bare_iff

theorem parse_of_locating {pattern : Text} (h : Locating pattern) :
    ∃ p, FailurePattern.parse pattern = .ok p := by
  obtain ⟨expr, hread, hmessage, hline⟩ := h
  have hmessage : FailurePattern.messageGroup ∈ expr.names := hmessage
  have hline : FailurePattern.lineGroup ∈ expr.names := hline
  exact ⟨⟨expr⟩, by simp [FailurePattern.parse, hread, hmessage, hline]⟩

theorem locating_of_parse {pattern : Text} {p : FailurePattern}
    (h : FailurePattern.parse pattern = .ok p) : Locating pattern := by
  unfold FailurePattern.parse at h
  split at h
  · simp at h
  · next expr hread =>
    split_ifs at h with hmessage hline
    refine ⟨expr, hread, ?_, ?_⟩
    · show FailurePattern.messageGroup ∈ expr.names
      simpa using hmessage
    · show FailurePattern.lineGroup ∈ expr.names
      simpa using hline

theorem not_locating_of_error {pattern : Text} {mistake : FailurePattern.Mistake}
    (h : FailurePattern.parse pattern = .error mistake) : ¬Locating pattern := by
  intro hp
  obtain ⟨p, hok⟩ := parse_of_locating hp
  simp [hok] at h

theorem excludeFlaw_eq_none {patterns : List Text} :
    excludeFlaw patterns = none ↔ Discovery.ValidGlobs patterns := by
  induction patterns with
  | nil => simp [excludeFlaw, Discovery.ValidGlobs]
  | cons pattern rest ih =>
    cases hp : Glob.parse pattern with
    | ok glob =>
      rw [excludeFlaw, hp]
      simpa [Discovery.ValidGlobs, hp] using ih
    | error e => simp [excludeFlaw, Discovery.ValidGlobs, hp]

def Flaw.key : Flaw → Key
  | compilerProgram => .compilerProgram
  | linterProgram => .linterProgram
  | templateExtension => .templateExtension
  | targetExtension => .targetExtension
  | sameExtension => .templateExtension
  | compilerPattern _ => .compilerPattern
  | linterPattern _ => .linterPattern
  | exclude _ _ => .exclude

theorem key_of_excludeFlaw {patterns : List Text} (h : excludeFlaw patterns = some flaw) :
    flaw.key = .exclude := by
  induction patterns with
  | nil => simp [excludeFlaw] at h
  | cons pattern rest ih =>
    rw [excludeFlaw] at h
    split at h
    · exact ih h
    · rw [← Option.some.inj h]
      rfl

theorem name_prefix_message (flaw : Flaw) : flaw.key.name <+: flaw.message := by
  have hlonger : ∀ {name head : Text} (rest : Text), name <+: head → name <+: head ++ rest :=
    fun rest h => h.trans (List.prefix_append _ rest)
  cases flaw with
  | compilerProgram => decide +kernel
  | linterProgram => decide +kernel
  | templateExtension => decide +kernel
  | targetExtension => decide +kernel
  | sameExtension => decide +kernel
  | compilerPattern mistake =>
    have hkey : Key.compilerPattern.name <+: "compiler.error_pattern: ".toList := by decide +kernel
    exact hlonger _ hkey
  | linterPattern mistake =>
    have hkey : Key.linterPattern.name <+: "linter.error_pattern: ".toList := by decide +kernel
    exact hlonger _ hkey
  | exclude pattern error =>
    have hkey : Key.exclude.name <+: "discovery.exclude `".toList := by decide +kernel
    exact hlonger _ (hlonger _ (hlonger _ hkey))

theorem shallowFlaw_eq_none (h : shallowFlaw c = none) :
    Visible c.compiler.program ∧ Visible c.linter.program ∧ Bare c.compiler.templateExtension ∧
      Bare c.compiler.targetExtension ∧
      c.compiler.templateExtension ≠ c.compiler.targetExtension := by
  obtain ⟨htemplate, htarget, hdiffer⟩ := extensions_of_shallowFlaw h
  unfold shallowFlaw at h
  split_ifs at h with hcompiler hlinter
  rw [isBlank_iff, not_not] at hcompiler hlinter
  exact ⟨hcompiler, hlinter, isBareExtension_iff.1 htemplate, isBareExtension_iff.1 htarget, hdiffer⟩

theorem firstOffence_of_shallowFlaw (h : shallowFlaw c = some flaw) : FirstOffence c flaw.key := by
  unfold shallowFlaw at h
  split_ifs at h with hcompiler hlinter htemplate htarget hsame
  all_goals
    obtain rfl := Option.some.inj h
    simp only [isBlank_iff, not_not, Bool.not_eq_true', ← Bool.not_eq_true,
      isBareExtension_iff] at *
  · exact ⟨[], _, rfl, hcompiler, by simp⟩
  · exact ⟨[.compilerProgram], _, rfl, hlinter, by simpa [Offends] using hcompiler⟩
  · refine ⟨[.compilerProgram, .linterProgram], _, rfl, .inl htemplate, ?_⟩
    simp [Offends, hcompiler, hlinter]
  · refine ⟨[.compilerProgram, .linterProgram, .templateExtension], _, rfl, htarget, ?_⟩
    -- an extension that is bare is not the same as one that is not
    have hdiffer : c.compiler.templateExtension ≠ c.compiler.targetExtension :=
      fun he => htarget (he ▸ htemplate)
    simp [Offends, hcompiler, hlinter, htemplate, hdiffer]
  · refine ⟨[.compilerProgram, .linterProgram], _, rfl, .inr hsame, ?_⟩
    simp [Offends, hcompiler, hlinter]

/-- Settings are refused for the first key that offends. -/
theorem firstOffence_of_error (h : ofConfig c = .error flaw) : FirstOffence c flaw.key := by
  unfold ofConfig at h
  split at h
  · next hflaw =>
    obtain rfl := Except.error.inj h
    exact firstOffence_of_shallowFlaw hflaw
  · next hflaw =>
    obtain ⟨hcompiler, hlinter, htemplate, htarget, hdiffer⟩ := shallowFlaw_eq_none hflaw
    split at h
    · next mistake hparse =>
      obtain rfl := Except.error.inj h
      refine ⟨[.compilerProgram, .linterProgram, .templateExtension, .targetExtension], _, rfl,
        not_locating_of_error hparse, ?_⟩
      simp [Offends, hcompiler, hlinter, htemplate, htarget, hdiffer]
    · next compilerPattern hcompile =>
      have hcompile := locating_of_parse hcompile
      split at h
      · next mistake hparse =>
        obtain rfl := Except.error.inj h
        refine ⟨[.compilerProgram, .linterProgram, .templateExtension, .targetExtension,
          .compilerPattern], _, rfl, not_locating_of_error hparse, ?_⟩
        simp [Offends, hcompiler, hlinter, htemplate, htarget, hdiffer, hcompile]
      · next linterPattern hlint =>
        have hlint := locating_of_parse hlint
        split at h
        · next hexclude =>
          obtain rfl := Except.error.inj h
          have hnot : ¬Discovery.ValidGlobs c.discovery.exclude := by
            rw [← excludeFlaw_eq_none, hexclude]
            simp
          rw [key_of_excludeFlaw hexclude]
          refine ⟨[.compilerProgram, .linterProgram, .templateExtension, .targetExtension,
            .compilerPattern, .linterPattern], _, rfl, hnot, ?_⟩
          simp [Offends, hcompiler, hlinter, htemplate, htarget, hdiffer, hcompile, hlint]
        · simp at h

theorem usable_of_ofConfig (h : ofConfig c = .ok b) : Usable c := by
  obtain ⟨-, hflaw⟩ := ofConfig_eq_ok h
  obtain ⟨hcompiler, hlinter, htemplate, htarget, hdiffer⟩ := shallowFlaw_eq_none hflaw
  unfold ofConfig at h
  rw [hflaw] at h
  cases hcompile : FailurePattern.parse c.compiler.errorPattern with
  | error mistake => simp [hcompile] at h
  | ok compilerPattern =>
    cases hlint : FailurePattern.parse c.linter.errorPattern with
    | error mistake => simp [hcompile, hlint] at h
    | ok linterPattern =>
      cases hexclude : excludeFlaw c.discovery.exclude with
      | some flaw => simp [hcompile, hlint, hexclude] at h
      | none =>
        exact ⟨hcompiler, hlinter, htemplate, htarget, hdiffer, locating_of_parse hcompile,
          locating_of_parse hlint, excludeFlaw_eq_none.1 hexclude⟩

theorem exists_ofConfigAt : (∃ b, ofConfigAt origin c = .ok b) ↔ Usable c := by
  cases h : ofConfig c with
  | ok b => simp [ofConfigAt, h, usable_of_ofConfig h]
  | error flaw => simp [ofConfigAt, h, (firstOffence_of_error h).not_usable]

theorem ofConfigAt_of_not_usable (hc : ¬Usable c) (origin : Path) : ∃ key message,
    FirstOffence c key ∧ key.name <+: message ∧
      ofConfigAt origin c = .error (.bootstrap origin message) := by
  cases h : ofConfig c with
  | ok b => exact absurd (usable_of_ofConfig h) hc
  | error flaw =>
    refine ⟨flaw.key, flaw.message, firstOffence_of_error h, name_prefix_message flaw, ?_⟩
    rw [ofConfigAt, h]

theorem config_of_ofConfigAt (h : ofConfigAt origin c = .ok b) : b.config = c := by
  unfold ofConfigAt at h
  split at h
  · next hb =>
    obtain rfl := Except.ok.inj h
    exact (ofConfig_eq_ok hb).1
  · simp at h

end Bootstrap

namespace CheckM

variable {ε α β : Type} {P : Halt ε → Prop}

def HaltsIn (P : Halt ε → Prop) (x : CheckM ε α) : Prop :=
  ∀ w halt w', x w = .error halt w' → P halt

namespace HaltsIn

theorem of_ok {x : CheckM ε α} (h : ∀ w, ∃ a w', x w = .ok a w') : x.HaltsIn P := by
  intro w halt w' hx
  obtain ⟨a, w₁, hok⟩ := h w
  simp [hok] at hx

theorem bind {x : CheckM ε α} {f : α → CheckM ε β} (hx : x.HaltsIn P)
    (hf : ∀ a, (f a).HaltsIn P) : (x >>= f).HaltsIn P := by
  intro w halt w' h
  cases hw : x w with
  | ok a w₁ => exact hf a _ _ _ (bind_of_ok hw ▸ h)
  | error halt₁ w₁ =>
    rw [bind_of_error hw] at h
    cases h
    exact hx _ _ _ hw

theorem within {setting : Setting} {x : CheckM ε α} (hx : x.HaltsIn P) :
    (within setting x).HaltsIn P := by
  intro w halt w' h
  unfold CheckM.within at h
  simp only [Context.enter] at h
  split at h
  · cases h
  · next hw =>
    cases h
    exact hx _ _ _ hw

theorem pure (a : α) : (Pure.pure a : CheckM ε α).HaltsIn P := .of_ok fun w => ⟨a, w, rfl⟩

theorem modify (f : World → World) : (modify f : CheckM ε Unit).HaltsIn P :=
  .of_ok fun w => ⟨(), f w, rfl⟩

theorem readDisk : (CheckM.readDisk : CheckM ε Disk).HaltsIn P := .of_ok fun w => ⟨w.disk, w, rfl⟩

theorem fail {e : ε} (h : P (.failed e)) : (CheckM.fail e : CheckM ε α).HaltsIn P := by
  intro w halt w' hx
  cases hx
  exact h

theorem note_if {c : Prop} [Decidable c] {level : Log.Level} {area : Log.Area} {message : Text}
    {next : Unit → CheckM ε α} (h : (next ()).HaltsIn P) :
    (if c then note level area message >>= next else next ()).HaltsIn P := by
  split
  · exact .bind (.modify _) fun _ => h
  · exact h

section Files

variable {P : Halt CheckError → Prop}
  (hio : ∀ message path cause, P (.failed (.io message path cause)))
include hio

theorem readText (p : Path) : (Check.readText p).HaltsIn P := by
  refine .bind .readDisk fun d => ?_
  cases d.readText p with
  | ok text => exact .pure text
  | error fault => exact .fail (hio _ _ _)

theorem canonicalize (p : Path) : (Check.canonicalize p).HaltsIn P := by
  refine .bind .readDisk fun d => ?_
  cases d.canonicalize p with
  | ok canonical => exact .pure canonical
  | error fault => exact .fail (hio _ _ _)

theorem writeText (p : Path) (text : Text) : (Check.writeText p text).HaltsIn P := by
  refine .bind .readDisk fun d => ?_
  cases d.write p (Text.bytes text) with
  | ok disk => exact .modify _
  | error fault => exact .fail (hio _ _ _)

theorem ensureDirectory (p : Path) : (Check.ensureDirectory p).HaltsIn P := by
  refine .bind .readDisk fun d => ?_
  cases d.pathExists p with
  | true => exact .pure ()
  | false =>
    cases d.makeDirectories p with
    | mk result disk =>
      refine .bind (.modify _) fun _ => ?_
      cases result with
      | ok => exact .pure ()
      | error fault => exact .fail (hio _ _ _)

end Files

end HaltsIn

end CheckM

section Stages

open CheckM

variable {P : Halt CheckError → Prop}
  (hio : ∀ message path cause, P (.failed (.io message path cause)))
include hio

namespace Compilation

variable {compiler : Compiler} (hc : ∀ path, (compiler.compile path).HaltsIn P) {extension : Text}
  (hx : Artifact.validExtension extension)
include hc hx

theorem compileOne_haltsIn (root : Path) (done : Compilation) (source : Path) :
    (compileOne root compiler extension done source).HaltsIn P := by
  have hroom : ∀ target, (makeRoom target).HaltsIn P := by
    intro target
    unfold makeRoom
    cases target.parent with
    | none => exact .pure ()
    | some directory => exact .ensureDirectory hio directory
  have hprepare : (prepare root extension source).HaltsIn P := by
    unfold prepare Artifact.locate
    rw [if_pos hx]
    refine .bind (.pure _) fun target => .bind (hroom target) fun _ => ?_
    exact .bind (.modify _) fun _ => .bind (.modify _) fun _ => .pure _
  have hsettle : ∀ target answer, (settle done source target answer).HaltsIn P := by
    intro target answer
    cases answer with
    | ok code =>
      refine .bind (.writeText hio _ _) fun _ => .bind (.canonicalize hio _) fun _ => ?_
      exact .bind (.modify _) fun _ => .pure _
    | error error =>
      refine .bind (.modify _) fun _ => .bind (.readText hio _) fun _ => ?_
      exact .bind (.modify _) fun _ => .pure _
  exact .within (.bind hprepare fun target => .bind (hc source) fun answer => hsettle target answer)

theorem run_haltsIn (root : Path) (sources : List Path) :
    (run root sources compiler extension).HaltsIn P := by
  have hall : ∀ done, (compileAll root compiler extension done sources).HaltsIn P := by
    induction sources with
    | nil => exact fun done => .pure done
    | cons source rest ih => exact fun done => .bind (compileOne_haltsIn hio hc hx root done source) ih
  exact .within (.bind (.modify _) fun _ => .bind (.ensureDirectory hio root) fun _ => hall {})

end Compilation

namespace Linting

theorem recordAll_haltsIn (m : SourceMap) (findings : List Finding) :
    (recordAll m findings).HaltsIn P := by
  have hone : ∀ finding, (recordFinding m finding).HaltsIn P := by
    intro finding
    refine .within (.bind .readDisk fun d => .note_if ?_)
    exact .bind (.readText hio _) fun _ => .pure _
  induction findings with
  | nil => exact .pure []
  | cons finding rest ih => exact .bind (hone finding) fun _ => .bind ih fun _ => .pure _

theorem run_haltsIn {linter : Linter} (hfiles : ∀ root, (linter.files root).HaltsIn P)
    (hlint : ∀ files, (linter.lint files).HaltsIn P) (root : Path) (m : SourceMap) :
    (run root linter m).HaltsIn P := by
  refine .within (.bind (.modify _) fun _ => .bind (hfiles root) fun files => ?_)
  refine .bind (.modify _) fun _ => .bind (.modify _) fun _ => .bind (hlint files) fun findings => ?_
  exact .bind (recordAll_haltsIn hio m findings) fun _ => .pure _

end Linting

/-- Under accepted settings a check ends early for a disk that refuses, or in the way in which one of
the capabilities does. -/
theorem Pipeline.run_haltsIn {compiler : Compiler} {linter : Linter} {options : Options}
    (hc : ∀ path, (compiler.compile path).HaltsIn P)
    (hfiles : ∀ root, (linter.files root).HaltsIn P)
    (hlint : ∀ files, (linter.lint files).HaltsIn P)
    (hx : Artifact.validExtension options.targetExtension)
    (hglobs : Discovery.ValidGlobs options.exclude) (dirs : List Path) (root : Path) :
    (run dirs root compiler linter options).HaltsIn P := by
  -- discovery ends early only for a pattern that cannot be read
  have hdiscovery : (Discovery.run dirs options.templateExtension options.exclude).HaltsIn P :=
    .of_ok fun w => Discovery.exists_run hglobs dirs _ w
  refine .bind hdiscovery fun discovery => .note_if ?_
  refine .bind (.ensureDirectory hio root) fun _ => .bind (.canonicalize hio root) fun root => ?_
  refine .bind (Compilation.run_haltsIn hio hc hx root _) fun outcome => .bind (.modify _) fun _ => ?_
  exact .bind (Linting.run_haltsIn hio hfiles hlint root _) fun _ => .pure _

end Stages

namespace Selection

theorem mapM_eq_error {ε α β : Type} {f : α → Except ε β} {xs : List α} {e : ε}
    (h : xs.mapM f = .error e) : ∃ x ∈ xs, f x = .error e := by
  induction xs with
  | nil => simp [pure, Except.pure] at h
  | cons x rest ih =>
    rw [List.mapM_cons] at h
    cases hx : f x with
    | error e' =>
      obtain rfl : e' = e := by simpa [hx, bind, Except.bind] using h
      exact ⟨x, List.mem_cons_self, hx⟩
    | ok y =>
      cases hr : rest.mapM f with
      | error e' =>
        obtain rfl : e' = e := by simpa [hx, hr, bind, Except.bind] using h
        obtain ⟨x', hx', he⟩ := ih hr
        exact ⟨x', List.mem_cons_of_mem _ hx', he⟩
      | ok ys => simp [hx, hr, bind, Except.bind, pure, Except.pure] at h

theorem files_eq_error {s : Selection} {d : Disk} {e : CheckError} (h : s.files d = .error e) :
    (∃ root fault, e = .walk root fault) ∨ ∃ message path cause, e = .io message path cause := by
  cases hr : s.roots.mapM (s.under d) with
  | ok found => simp [Selection.files, hr] at h
  | error e' =>
    obtain rfl : e' = e := by simpa [Selection.files, hr] using h
    obtain ⟨root, -, hunder⟩ := mapM_eq_error hr
    unfold under at hunder
    split at hunder
    · exact .inl ⟨_, _, (Except.error.inj hunder).symm⟩
    · obtain ⟨path, -, hpath⟩ := mapM_eq_error hunder
      split at hpath
      · simp at hpath
      · exact .inr ⟨_, _, _, (Except.error.inj hpath).symm⟩

end Selection

/-- An error of the disk, of a walk or of a program, and not of the settings. -/
inductive CheckError.Outward : CheckError → Prop where
  | io (message : Text) (path : Path) (cause : Cause) : Outward (.io message path cause)
  | walk (root : Path) (fault : Fault) : Outward (.walk root fault)
  | tool (program : Text) (cause : Cause) : Outward (.tool program cause)

def Halt.Outward (halt : Halt CheckError) : Prop := ∃ e, halt = .failed e ∧ e.Outward

namespace Backend

open CheckM

variable {programs : Programs} {command : ToolCommand} {pattern : FailurePattern}

theorem tool_haltsIn (file : Path) : (command.run programs file).HaltsIn Halt.Outward := by
  refine .bind (.modify _) fun _ => .bind (.of_ok fun w => ⟨_, _, rfl⟩) fun outcome => ?_
  cases outcome with
  | ok exit => exact .pure _
  | error fault => exact .fail ⟨_, rfl, .tool _ _⟩

theorem compiler_haltsIn (path : Path) :
    ((compiler programs command pattern).compile path).HaltsIn Halt.Outward := by
  refine .bind (tool_haltsIn path) fun output => ?_
  split
  · exact .pure _
  · exact .bind .readDisk fun _ => .pure _

theorem lintAll_haltsIn (files : List Path) :
    (lintAll programs command pattern files).HaltsIn Halt.Outward := by
  have hone : ∀ file, (lintOne programs command pattern file).HaltsIn Halt.Outward := by
    intro file
    refine .bind (tool_haltsIn file) fun output => ?_
    split <;> exact .pure _
  induction files with
  | nil => exact .pure []
  | cons file rest ih =>
    refine .bind (hone file) fun found => ?_
    cases found with
    | none => exact ih
    | some finding => exact .bind (.modify _) fun _ => .bind ih fun _ => .pure _

theorem files_haltsIn {extension : Text} (root : Path) :
    ((linter programs command pattern extension).files root).HaltsIn Halt.Outward := by
  refine .bind .readDisk fun d => ?_
  cases hfiles : Selection.files ⟨[root], extension, []⟩ d with
  | ok files => exact .pure files
  | error e =>
    refine .fail ⟨e, rfl, ?_⟩
    rcases Selection.files_eq_error hfiles with ⟨root, fault, rfl⟩ | ⟨message, path, cause, rfl⟩
    · exact .walk root fault
    · exact .io message path cause

end Backend

namespace Bootstrap

open CheckM Command

variable {c : BootstrapConfig} {b : Bootstrap} {origin : Path}

/-- The end of a check is one that a capability has come to. -/
def EndOf (compiler : Compiler) (linter : Linter) (halt : Halt CheckError) : Prop :=
  (∃ path v v', compiler.compile path v = .error halt v') ∨
    (∃ root v v', linter.files root v = .error halt v') ∨
    ∃ files v v', linter.lint files v = .error halt v'

/-- Every artifact has a path, and no check ends early for what the settings say: only for a disk that
refuses, or as one of its capabilities does. So one whose capabilities run programs neither crashes
nor complains about a pattern. -/
structure Untroubled (b : Bootstrap) : Prop where
  artifact : ∀ (root source : Path) (w : World),
    (Artifact.locate root source (optionsOf b).targetExtension : Check Path) w =
      .ok (Artifact.path root source (optionsOf b).targetExtension) w
  run : ∀ dirs root compiler linter w halt w',
    Pipeline.run dirs root compiler linter (optionsOf b) w = .error halt w' →
      (∃ message path cause, halt = .failed (.io message path cause)) ∨ EndOf compiler linter halt
  commands : ∀ programs dirs root w halt w',
    Pipeline.run dirs root (compilerOf programs b) (linterOf programs b) (optionsOf b) w =
      .error halt w' → ∃ e, halt = .failed e ∧ ∀ mistake, e ≠ .glob mistake

theorem validExtension_of_bare {extension : Text} (h : Bare extension) :
    Artifact.validExtension extension := by
  simpa [Artifact.validExtension] using h.2.2.1

theorem untroubled (hc : Usable b.config) : Untroubled b := by
  have hx : Artifact.validExtension (optionsOf b).targetExtension :=
    validExtension_of_bare hc.targetExtension
  have hglobs : Discovery.ValidGlobs (optionsOf b).exclude := hc.exclude
  refine ⟨fun root source w => ?_, ?_, ?_⟩
  · rw [Artifact.locate, if_pos hx]
    rfl
  · intro dirs root compiler linter w halt w' h
    exact Pipeline.run_haltsIn (P := fun halt =>
        (∃ message path cause, halt = .failed (.io message path cause)) ∨ EndOf compiler linter halt)
      (fun message path cause => .inl ⟨message, path, cause, rfl⟩)
      (fun path _ _ _ h => .inr (.inl ⟨path, _, _, h⟩))
      (fun root _ _ _ h => .inr (.inr (.inl ⟨root, _, _, h⟩)))
      (fun files _ _ _ h => .inr (.inr (.inr ⟨files, _, _, h⟩))) hx hglobs dirs root w halt w' h
  · intro programs dirs root w halt w' h
    obtain ⟨e, rfl, he⟩ := Pipeline.run_haltsIn (P := Halt.Outward)
      (fun message path cause => ⟨_, rfl, .io message path cause⟩) Backend.compiler_haltsIn
      Backend.files_haltsIn Backend.lintAll_haltsIn hx hglobs dirs root w halt w' h
    refine ⟨e, rfl, ?_⟩
    rintro mistake rfl
    cases he

/-- Settings are accepted exactly when every key is usable, and otherwise refused at their origin in
the name of the first key that is not. Accepted settings give no trouble later. -/
theorem validation_is_exact (c : BootstrapConfig) (origin : Path) :
    ((∃ b, ofConfigAt origin c = .ok b) ↔ Usable c) ∧
    (¬Usable c → ∃ key message, FirstOffence c key ∧ key.name <+: message ∧
      ofConfigAt origin c = .error (.bootstrap origin message)) ∧
    ∀ b, ofConfigAt origin c = .ok b → b.config = c ∧ Untroubled b := by
  refine ⟨exists_ofConfigAt, fun h => ofConfigAt_of_not_usable h origin, fun b hb => ?_⟩
  have hconfig := config_of_ofConfigAt hb
  refine ⟨hconfig, untroubled ?_⟩
  rw [hconfig]
  exact exists_ofConfigAt.1 ⟨b, hb⟩

/-- Both extensions are the same, a pattern has no group for the line, and a glob is not closed. -/
def flawedConfig : BootstrapConfig where
  compiler := { targetExtension := "latte", errorPattern := "(?P<message>.+)" }
  discovery := { exclude := ["["] }

theorem validation_is_exact_flawed :
    (¬Usable flawedConfig ∧ ∃ key message, FirstOffence flawedConfig key ∧ key.name <+: message ∧
      ofConfigAt "b.toml" flawedConfig = .error (.bootstrap "b.toml" message)) ∧
    ∃ b, ofConfigAt "<default>" {} = .ok b ∧ b.config = {} ∧ Untroubled b := by
  have hnot : ¬Usable flawedConfig := fun h => h.differ rfl
  have hdefault : (ofConfigAt "<default>" {}).toOption.isSome := by decide +kernel
  obtain ⟨b, hb⟩ := Option.isSome_iff_exists.1 hdefault
  have hb := ok_of_toOption hb
  exact ⟨⟨hnot, (validation_is_exact flawedConfig "b.toml").2.1 hnot⟩, b, hb,
    (validation_is_exact {} "<default>").2.2 b hb⟩

end Bootstrap

end TemplateCheck
