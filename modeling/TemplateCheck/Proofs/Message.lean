import TemplateCheck.Proofs.ReadBack

/-!
The message of a failure is what the pattern has captured, or all that the tool said, or how the tool
ended. The last two are never blank. What was captured is taken as it is once the pattern matches,
though a pattern may match with nothing but blanks for a message, or with no message at all: then the
report says nothing, whatever else the tool has said.
-/
namespace TemplateCheck

open CheckM

namespace Text

variable {t : Text}

private theorem mem_dropWhile_blank {c : Char} (hc : c ∈ t) (hne : ¬blank c) :
    c ∈ t.dropWhile blank := by
  rw [← List.takeWhile_append_dropWhile (p := blank) (l := t), List.mem_append] at hc
  rcases hc with hc | hc
  · exact absurd (List.mem_takeWhile_imp hc) hne
  · exact hc

theorem mem_trim {c : Char} (hc : c ∈ t) (hne : ¬blank c) : c ∈ trim t := by
  have hstart : c ∈ (trimStart t).reverse := List.mem_reverse.2 (mem_dropWhile_blank hc hne)
  exact List.mem_reverse.2 (mem_dropWhile_blank hstart hne)

theorem isBlank_trim_iff : isBlank (trim t) ↔ isBlank t := by
  constructor
  · intro h
    refine List.all_eq_true.2 fun c hc => ?_
    by_contra hne
    exact hne (List.all_eq_true.1 h c (mem_trim hc hne))
  · intro h
    rw [FailurePattern.trim_of_blank (List.all_eq_true.1 h)]
    rfl

theorem isEmpty_trim_iff : (trim t).isEmpty ↔ isBlank t := by
  constructor
  · intro h
    rw [← isBlank_trim_iff, List.isEmpty_iff.1 h]
    rfl
  · intro h
    rw [FailurePattern.trim_of_blank (List.all_eq_true.1 h)]
    rfl

end Text

namespace Backend

variable {programs : Programs} {command : ToolCommand} {pattern : FailurePattern} {file : Path}
  {output : ToolOutput} {message : Text} {w w' : World}

/-- What a failed run is reported with. -/
inductive Told (command : ToolCommand) (pattern : FailurePattern) (output : ToolOutput) :
    Text → Prop where
  | captured {found : Cursor} (matched : pattern.expr.search output.diagnostics = some found) :
      Told command pattern output (Text.trim ((found.group? FailurePattern.messageGroup).getD []))
  | said (unmatched : pattern.expr.search output.diagnostics = none)
      (spoken : ¬Text.isBlank output.diagnostics) :
      Told command pattern output (Text.trim output.diagnostics)
  | ended (unmatched : pattern.expr.search output.diagnostics = none)
      (silent : Text.isBlank output.diagnostics) :
      Told command pattern output (command.program ++ " exited with " ++ output.status.message)

/-- The pattern matches, and captures no message or one of blanks only. -/
def Muted (pattern : FailurePattern) (output : ToolOutput) : Prop :=
  ∃ found, pattern.expr.search output.diagnostics = some found ∧
    ∀ t, found.group? FailurePattern.messageGroup = some t → Text.isBlank t

theorem not_muted_of_none (h : pattern.expr.search output.diagnostics = none) :
    ¬Muted pattern output := by
  rintro ⟨found, hfound, -⟩
  simp [h] at hfound

theorem told_findingOf (command : ToolCommand) (pattern : FailurePattern) (file : Path)
    (output : ToolOutput) : Told command pattern output (findingOf command pattern file output).error := by
  simp only [findingOf]
  cases hsearch : pattern.expr.search output.diagnostics with
  | some found =>
    simp only [find_of_some hsearch]
    exact .captured hsearch
  | none =>
    simp only [find_of_none hsearch]
    cases htrim : Text.trim output.diagnostics with
    | nil => exact .ended hsearch (Text.isEmpty_trim_iff.1 (by simp [htrim]))
    | cons c rest =>
      have hspoken : ¬Text.isBlank output.diagnostics := by
        intro hblank
        simpa [htrim] using Text.isEmpty_trim_iff.2 hblank
      have htold : Told command pattern output (Text.trim output.diagnostics) :=
        .said hsearch hspoken
      rwa [htrim] at htold

/-- Only a message that was captured can be blank. -/
theorem Told.isBlank_iff (h : Told command pattern output message) :
    Text.isBlank message ↔ Muted pattern output := by
  cases h with
  | @captured found matched =>
    rw [Text.isBlank_trim_iff]
    constructor
    · intro hblank
      refine ⟨found, matched, fun t ht => ?_⟩
      rwa [ht] at hblank
    · rintro ⟨other, hother, hgroup⟩
      obtain rfl : found = other := Option.some.inj (matched.symm.trans hother)
      cases hmessage : found.group? FailurePattern.messageGroup with
      | none => rfl
      | some t => exact hgroup t hmessage
  | said unmatched spoken =>
    rw [Text.isBlank_trim_iff]
    exact iff_of_false spoken (not_muted_of_none unmatched)
  | ended unmatched silent =>
    refine iff_of_false ?_ (not_muted_of_none unmatched)
    intro hblank
    have hletter : 'e' ∈ command.program ++ " exited with ".toList ++ output.status.message := by simp
    exact absurd (List.all_eq_true.1 hblank _ hletter) (by decide)

theorem reports_of_failed (pattern : FailurePattern) {exit : Exit}
    (houtcome : command.outcome programs file w = .ok exit)
    (hfailed : exit.status.isSuccess = false) : ∃ w',
      (compiler programs command pattern).compile file w =
        .ok (.error (errorOf command pattern w.disk file (.ofExit exit))) w' ∧
      lintOne programs command pattern file w =
        .ok (some (findingOf command pattern file (.ofExit exit))) w' := by
  cases verdict programs command pattern file w with
  | unstarted w' hother => simp [houtcome] at hother
  | @clean other w' hother hstatus =>
    obtain rfl : exit = other := Except.ok.inj (houtcome.symm.trans hother)
    simp [Status.isSuccess, hstatus] at hfailed
  | @failed other w' hother _ hcompiled hlinted =>
    obtain rfl : exit = other := Except.ok.inj (houtcome.symm.trans hother)
    exact ⟨w', hcompiled, hlinted⟩

theorem failed_of_lintOne {finding : Finding}
    (h : lintOne programs command pattern file w = .ok (some finding) w') :
    ∃ exit, command.outcome programs file w = .ok exit ∧ exit.status.isSuccess = false ∧
      finding = findingOf command pattern file (.ofExit exit) := by
  cases verdict programs command pattern file w with
  | unstarted w₁ _ _ hlinted => simp [hlinted] at h
  | clean w₁ _ _ _ hlinted => simp [hlinted] at h
  | @failed exit w₁ houtcome hstatus _ hlinted =>
    obtain ⟨hfinding, -⟩ := EStateM.Result.ok.inj (h.symm.trans hlinted)
    exact ⟨exit, houtcome, by simpa [Status.isSuccess] using hstatus, Option.some.inj hfinding⟩

theorem Rounds.exists_run {files : List Path} {founds : List (Option Finding)}
    (h : Rounds programs command pattern w files founds w') {finding : Finding}
    (hf : some finding ∈ founds) :
    ∃ file ∈ files, ∃ v v', lintOne programs command pattern file v = .ok (some finding) v' := by
  induction h with
  | nil => simp at hf
  | cons _ _ run _ _ ih =>
    rcases List.mem_cons.1 hf with rfl | hf
    · exact ⟨_, List.mem_cons_self, _, _, run⟩
    · obtain ⟨file, hfile, hrun⟩ := ih hf
      exact ⟨file, List.mem_cons_of_mem _ hfile, hrun⟩

/-- A failed run is reported with a message that is blank exactly if the pattern matches with a blank
one. -/
theorem blank_message_iff_muted (programs : Programs) (command : ToolCommand)
    (pattern : FailurePattern) (extension : Text) :
    (∀ file w exit, command.outcome programs file w = .ok exit → exit.status.isSuccess = false →
      ∃ error finding w', (compiler programs command pattern).compile file w = .ok (.error error) w' ∧
        lintOne programs command pattern file w = .ok (some finding) w' ∧
        error.message = finding.error ∧ Told command pattern (.ofExit exit) error.message ∧
        (Text.isBlank error.message ↔ Muted pattern (.ofExit exit))) ∧
    ∀ files w findings w',
      (linter programs command pattern extension).lint files w = .ok findings w' →
      ∀ finding ∈ findings, ∃ v exit, finding.file ∈ files ∧
        command.outcome programs finding.file v = .ok exit ∧ exit.status.isSuccess = false ∧
        Told command pattern (.ofExit exit) finding.error ∧
        (Text.isBlank finding.error ↔ Muted pattern (.ofExit exit)) := by
  constructor
  · intro file w exit houtcome hfailed
    obtain ⟨w', hcompiled, hlinted⟩ := reports_of_failed pattern houtcome hfailed
    have hsame := errorOf_message command pattern w.disk file file (.ofExit exit)
    have htold := told_findingOf command pattern file (.ofExit exit)
    rw [← hsame] at htold
    exact ⟨_, _, w', hcompiled, hlinted, hsame, htold, htold.isBlank_iff⟩
  · intro files w findings w' hlint finding hfinding
    have hcollects := collects programs command pattern files w
    change lintAll programs command pattern files w = .ok findings w' at hlint
    rw [hlint] at hcollects
    cases hcollects with
    | @all founds _ rounds =>
      obtain ⟨found, hfound, rfl⟩ := List.mem_filterMap.1 hfinding
      obtain ⟨file, hfile, v, v', hone⟩ := rounds.exists_run hfound
      obtain ⟨exit, houtcome, hfailed, rfl⟩ := failed_of_lintOne hone
      have htold := told_findingOf command pattern file (.ofExit exit)
      rw [findingOf_file]
      exact ⟨v, exit, hfile, houtcome, hfailed, htold, htold.isBlank_iff⟩

def ending (exit : Exit) : Programs where
  start _ _ _ _ := .ok exit

def shell : ToolCommand := ⟨"sh", []⟩

def world : World := { disk := .blank "/" }

def speechless : Exit := { status := .exited 3 }

def placeOnly : Exit :=
  { status := .exited 1, stderr := (Text.bytes "  in x on line 4\n").toList }

theorem blank_message_iff_muted_speechless :
    (∃ error finding w',
      (compiler (ending speechless) shell ⟨FailurePattern.compilerExpr⟩).compile "a" world =
        .ok (.error error) w' ∧
      lintOne (ending speechless) shell ⟨FailurePattern.compilerExpr⟩ "a" world =
        .ok (some finding) w' ∧
      error.message = finding.error ∧ ¬Text.isBlank error.message) ∧
    ∃ findings w',
      (linter (ending placeOnly) shell ⟨FailurePattern.compilerExpr⟩ "php").lint ["a", "b"] world =
        .ok findings w' ∧ findings.length = 2 ∧
      ∀ finding ∈ findings, Text.isBlank finding.error := by
  constructor
  · obtain ⟨error, finding, w', hcompiled, hlinted, hsame, -, hblank⟩ :=
      (blank_message_iff_muted (ending speechless) shell ⟨FailurePattern.compilerExpr⟩ "php").1
        "a" world speechless rfl rfl
    refine ⟨error, finding, w', hcompiled, hlinted, hsame, ?_⟩
    have hnone : (FailurePattern.compilerExpr.search
        (ToolOutput.ofExit speechless).diagnostics).isNone := by
      decide +kernel
    rw [hblank]
    exact not_muted_of_none (Option.isNone_iff_eq_none.1 hnone)
  · have hrun : outcome? (fun findings _ => findings.length)
        ((linter (ending placeOnly) shell ⟨FailurePattern.compilerExpr⟩ "php").lint ["a", "b"] world) =
          some 2 := by
      decide +kernel
    have hblanks : ((FailurePattern.compilerExpr.search (ToolOutput.ofExit placeOnly).diagnostics).bind
        fun found => found.group? FailurePattern.messageGroup) = some " ".toList := by
      decide +kernel
    obtain ⟨findings, w', hlint, hlength⟩ := exists_of_outcome hrun
    refine ⟨findings, w', hlint, hlength, fun finding hmem => ?_⟩
    obtain ⟨v, exit, -, houtcome, -, -, hblank⟩ :=
      (blank_message_iff_muted (ending placeOnly) shell ⟨FailurePattern.compilerExpr⟩ "php").2
        _ _ _ _ hlint finding hmem
    obtain rfl : placeOnly = exit := Except.ok.inj houtcome
    obtain ⟨found, hfound, hgroup⟩ := Option.bind_eq_some_iff.1 hblanks
    refine hblank.2 ⟨found, hfound, fun t ht => ?_⟩
    obtain rfl : " ".toList = t := Option.some.inj (hgroup.symm.trans ht)
    rfl

/-- Even the default pattern of the compiler takes a blank for a message. -/
theorem blank_message_reported :
    FailurePattern.parse ({} : CompilerConfig).errorPattern = .ok ⟨FailurePattern.compilerExpr⟩ ∧
    (∃ error w', (compiler (ending placeOnly) shell ⟨FailurePattern.compilerExpr⟩).compile "a" world =
      .ok (.error error) w' ∧ error.message = []) ∧
    ∃ finding w', lintOne (ending placeOnly) shell ⟨FailurePattern.compilerExpr⟩ "a" world =
      .ok (some finding) w' ∧ finding.error = [] := by
  have houtcome : shell.outcome (ending placeOnly) "a" world = .ok placeOnly := rfl
  obtain ⟨w', hcompiled, hlinted⟩ :=
    reports_of_failed ⟨FailurePattern.compilerExpr⟩ houtcome (by decide)
  have hmessage : (findingOf shell ⟨FailurePattern.compilerExpr⟩ "a" (.ofExit placeOnly)).error = [] := by
    decide +kernel
  refine ⟨FailurePattern.parse_compiler, ⟨_, w', hcompiled, ?_⟩, _, w', hlinted, hmessage⟩
  rw [errorOf_message shell _ _ _ "a", hmessage]

end Backend

end TemplateCheck
