import Mathlib.Data.Nat.Digits.Defs
import TemplateCheck.Proofs.Colour
import TemplateCheck.Proofs.Processes

/-!
The compiler and the linter that run a program take the same run for a failure, and tell the same
message and the same line of it. They part over the file only: a finding names the file that was
linted, and an error of a template names the file that the tool has reported, if there is such a file.
-/
namespace TemplateCheck

open CheckM

namespace Text

/-- ASCII digits, with or without a plus sign in front, and the number that they stand for. -/
def Denotes (t : Text) (n : Nat) : Prop :=
  ∃ digits : Text, (t = digits ∨ t = '+' :: digits) ∧ digits ≠ [] ∧ (∀ c ∈ digits, c.isDigit) ∧
    Nat.ofDigits 10 (digits.reverse.map fun c => c.toNat - '0'.toNat) = n

variable {t digits : Text} {n : Nat}

theorem digitsValue_eq (digits : Text) :
    digitsValue digits = Nat.ofDigits 10 (digits.reverse.map fun c => c.toNat - '0'.toNat) := by
  rw [Nat.ofDigits_eq_foldr, List.foldr_map, List.foldr_reverse, digitsValue]
  simp [Nat.add_comm]

private theorem readCount_cases (t : Text) : ∃ digits : Text,
    (t = digits ∧ digits.head? ≠ some '+' ∨ t = '+' :: digits) ∧
    readCount t = if digits.isEmpty || !digits.all Char.isDigit then none
      else if digitsValue digits ≤ maxCount then some (digitsValue digits) else none := by
  cases t with
  | nil => exact ⟨[], .inl ⟨rfl, by simp⟩, rfl⟩
  | cons c rest =>
    by_cases hc : c = '+'
    · subst hc
      exact ⟨rest, .inr rfl, rfl⟩
    · refine ⟨c :: rest, .inl ⟨rfl, by simpa using hc⟩, ?_⟩
      unfold readCount
      split
      · next he => exact absurd (List.cons.inj he).1 hc
      · rfl

theorem readCount_eq_some_iff : readCount t = some n ↔ Denotes t n ∧ n < 2 ^ 64 := by
  have hmax : ∀ m, m ≤ maxCount ↔ m < 2 ^ 64 := by
    intro m
    simp only [maxCount]
    omega
  obtain ⟨digits, hshape, hread⟩ := readCount_cases t
  rw [hread]
  constructor
  · intro h
    split_ifs at h with hbad hle
    obtain rfl := Option.some.inj h
    simp only [Bool.or_eq_true, List.isEmpty_iff, Bool.not_eq_true', not_or,
      Bool.not_eq_false, List.all_eq_true] at hbad
    refine ⟨⟨digits, ?_, hbad.1, hbad.2, (digitsValue_eq digits).symm⟩, (hmax _).1 hle⟩
    exact hshape.imp_left And.left
  · rintro ⟨⟨others, hothers, hne, hall, hvalue⟩, hlt⟩
    -- a sign is no digit, so the text is split in one way only
    obtain rfl : digits = others := by
      rcases hshape with ⟨rfl, hsign⟩ | rfl <;> rcases hothers with rfl | h
      · rfl
      · simp [h] at hsign
      · exact absurd (hall '+' (by simp)) (by decide)
      · exact (List.cons.inj h).2
    rw [← digitsValue_eq] at hvalue
    have hgood : (digits.isEmpty || !digits.all Char.isDigit) = false := by
      simp [hne, List.all_eq_true.2 hall]
    rw [hgood, if_neg (by simp), hvalue, if_pos ((hmax n).2 hlt)]

end Text

namespace ToolOutput

/-- Both streams as one text. Errors come first, and a blank stream is left out beside one that is
not blank. -/
inductive Joined (stdout stderr : Text) : Text → Prop where
  | both (err : ¬Text.isBlank stderr) (out : ¬Text.isBlank stdout) :
      Joined stdout stderr (stderr ++ '\n' :: stdout)
  | errors (err : ¬Text.isBlank stderr) (out : Text.isBlank stdout) : Joined stdout stderr stderr
  | output (err : Text.isBlank stderr) : Joined stdout stderr stdout

/-- A text, and what is left of it once the colour codes are dropped from left to right. -/
inductive Stripped : Text → Text → Prop where
  | nil : Stripped [] []
  | code {code t s : Text} (isCode : IsColourCode code) (rest : Stripped t s) : Stripped (code ++ t) s
  | char {c : Char} {t s : Text} (noCode : ∀ code rest, c :: t = code ++ rest → ¬IsColourCode code)
      (rest : Stripped t s) : Stripped (c :: t) (c :: s)

/-- The text in which a failure is looked for: what the process has written, without colours. -/
def Heard (exit : Exit) (t : Text) : Prop :=
  ∃ joined, Joined (Text.ofBytesLossy exit.stdout) (Text.ofBytesLossy exit.stderr) joined ∧
    Stripped joined t

theorem joined_iff (o : ToolOutput) {t : Text} : Joined o.stdout o.stderr t ↔ t = o.streams := by
  unfold streams
  constructor
  · intro h
    cases h with
    | both err out => rw [if_neg err, if_neg out]
    | errors err out => rw [if_neg err, if_pos out]
    | output err => rw [if_pos err]
  · intro h
    rw [h]
    by_cases err : Text.isBlank o.stderr
    · rw [if_pos err]
      exact .output err
    · by_cases out : Text.isBlank o.stdout
      · rw [if_neg err, if_pos out]
        exact .errors err out
      · rw [if_neg err, if_neg out]
        exact .both err out

theorem stripped_iff {t s : Text} : Stripped t s ↔ s = stripColours t := by
  constructor
  · intro h
    induction h with
    | nil => rfl
    | code isCode _ ih => rw [stripColours_code isCode, ih]
    | char noCode _ ih => rw [stripColours_cons (colourCodeLength_eq_none.2 noCode), ih]
  · intro h
    rw [h]
    clear h
    induction t using strip_induction with
    | nil => exact .nil
    | code code t isCode ih =>
      rw [stripColours_code isCode]
      exact .code isCode ih
    | char c t hnone ih =>
      rw [stripColours_cons hnone]
      exact .char (colourCodeLength_eq_none.1 hnone) ih

theorem heard_iff {exit : Exit} {t : Text} : Heard exit t ↔ t = (ofExit exit).diagnostics := by
  constructor
  · intro h
    obtain ⟨joined, hjoined, hstripped⟩ := h
    rw [stripped_iff.1 hstripped, (joined_iff (ofExit exit)).1 hjoined]
    rfl
  · intro h
    exact ⟨(ofExit exit).streams, (joined_iff (ofExit exit)).2 rfl, stripped_iff.2 h⟩

end ToolOutput

namespace ToolCommand

variable {programs : Programs} {c : ToolCommand} {file : Path} {w : World}

theorem run_eq (programs : Programs) (c : ToolCommand) (file : Path) (w : World) :
    ∃ w', w'.disk = w.disk ∧ c.run programs file w =
      match c.outcome programs file w with
      | .ok exit => .ok (.ofExit exit) w'
      | .error fault => .error (.failed (.tool c.program (.fault fault))) w' := by
  let message := "Running " ++ c.program ++ " " ++ Text.join " " (c.argsFor file)
  obtain ⟨w₁, hnote, hquiet⟩ : ∃ w₁, (note .debug .tool message : Check Unit) w = .ok () w₁ ∧
    Quiet w w₁ := note_ok _ _ _ w
  let process : Process :=
    ⟨c.program, c.argsFor file, file, w₁.disk, c.outcome programs file w⟩
  have hlaunch : (launch programs file c.program (c.argsFor file) : Check _) w₁ =
      .ok (c.outcome programs file w) { w₁ with processes := w₁.processes.push process } := by
    simp only [process, outcome, ← hquiet.disk, ← hquiet.processes]
    rfl
  refine ⟨{ w₁ with processes := w₁.processes.push process }, hquiet.disk, ?_⟩
  rw [run, bind_of_ok hnote, bind_of_ok hlaunch]
  cases c.outcome programs file w <;> rfl

theorem run_of_error {fault : Fault} (h : c.outcome programs file w = .error fault) :
    ∃ w', c.run programs file w = .error (.failed (.tool c.program (.fault fault))) w' := by
  obtain ⟨w', -, hrun⟩ := run_eq programs c file w
  exact ⟨w', by rw [hrun, h]⟩

theorem run_of_ok {exit : Exit} (h : c.outcome programs file w = .ok exit) :
    ∃ w', w'.disk = w.disk ∧ c.run programs file w = .ok (.ofExit exit) w' := by
  obtain ⟨w', hdisk, hrun⟩ := run_eq programs c file w
  exact ⟨w', hdisk, by rw [hrun, h]⟩

end ToolCommand

namespace Backend

variable {programs : Programs} {command : ToolCommand} {pattern : FailurePattern} {file : Path}
  {w : World}

/-- What a group holds where the pattern first matches a text. -/
def captured (pattern : FailurePattern) (heard group : Text) : Option Text :=
  (pattern.expr.search heard).bind fun found => found.group? group

/-- The line that a captured text tells: a number that is a line, or else the first line. -/
def TellsLine (captured : Option Text) (line : Nat) : Prop :=
  (∃ t, captured = some t ∧ Text.Denotes t line ∧ 1 ≤ line ∧ line < 2 ^ 64) ∨
    line = 1 ∧ ¬∃ t n, captured = some t ∧ Text.Denotes t n ∧ 1 ≤ n ∧ n < 2 ^ 64

/-- The file that a captured text tells: one that is there, or else the template. -/
def TellsFile (disk : Disk) (template : Path) (captured : Option Text) (file : Path) : Prop :=
  (∃ t, captured = some t ∧ disk.isFile (.ofText (Text.trim t)) ∧ file = .ofText (Text.trim t)) ∨
    file = template ∧ ¬∃ t, captured = some t ∧ disk.isFile (.ofText (Text.trim t))

theorem tellsLine_count (t : Option Text) :
    TellsLine t (max ((t.bind Text.readCount).getD 1) 1) := by
  cases hcount : t.bind Text.readCount with
  | none =>
    refine .inr ⟨by simp, ?_⟩
    rintro ⟨t', n, rfl, hn, -, hlt⟩
    have hread := Text.readCount_eq_some_iff.2 ⟨hn, hlt⟩
    simp [hread] at hcount
  | some n =>
    obtain ⟨text, rfl, hread⟩ := Option.bind_eq_some_iff.1 hcount
    obtain ⟨hn, hlt⟩ := Text.readCount_eq_some_iff.1 hread
    by_cases hzero : n = 0
    · refine .inr ⟨by simp [hzero], ?_⟩
      rintro ⟨t', m, ht, hm, hpos, hlt'⟩
      obtain rfl := Option.some.inj ht
      rw [Text.readCount_eq_some_iff.2 ⟨hm, hlt'⟩] at hread
      obtain rfl := Option.some.inj hread
      omega
    · have hmax : max ((some n).getD 1) 1 = n := by
        simp only [Option.getD_some]
        omega
      rw [hmax]
      exact .inl ⟨text, rfl, hn, by omega, hlt⟩

theorem tellsFile_filter (disk : Disk) (template : Path) (t : Option Text) :
    TellsFile disk template t
      (((t.map fun text => Path.ofText (Text.trim text)).filter disk.isFile).getD template) := by
  cases t with
  | none => exact .inr ⟨rfl, by simp⟩
  | some t =>
    by_cases hthere : disk.isFile (.ofText (Text.trim t))
    · exact .inl ⟨t, rfl, hthere, by simp [Option.filter_some, hthere]⟩
    · exact .inr ⟨by simp [Option.filter_some, hthere], by simpa using hthere⟩

theorem find_of_none {t : Text} (h : pattern.expr.search t = none) : pattern.find t = none := by
  rw [FailurePattern.find, h, Option.map_none]

theorem find_of_some {t : Text} {found : Cursor} (h : pattern.expr.search t = some found) :
    pattern.find t = some
      { message := Text.trim ((found.group? FailurePattern.messageGroup).getD [])
        file := (found.group? FailurePattern.fileGroup).map fun text => .ofText (Text.trim text)
        line := (found.group? FailurePattern.lineGroup).bind Text.readCount } := by
  rw [FailurePattern.find, h, Option.map_some]

section Extraction

variable (command : ToolCommand) (pattern : FailurePattern) (disk : Disk) (template linted : Path)
  (output : ToolOutput)

theorem errorOf_line : TellsLine (captured pattern output.diagnostics FailurePattern.lineGroup)
    (errorOf command pattern disk template output).line := by
  have hcount := tellsLine_count (captured pattern output.diagnostics FailurePattern.lineGroup)
  cases hsearch : pattern.expr.search output.diagnostics with
  | none =>
    simp only [captured, hsearch, Option.bind_none, Option.getD_none, max_self] at hcount ⊢
    simpa only [errorOf, find_of_none hsearch] using hcount
  | some found =>
    simp only [captured, hsearch, Option.bind_some] at hcount ⊢
    simpa only [errorOf, find_of_some hsearch] using hcount

theorem errorOf_file : TellsFile disk template
    (captured pattern output.diagnostics FailurePattern.fileGroup)
    (errorOf command pattern disk template output).file := by
  have hfile := tellsFile_filter disk template
    (captured pattern output.diagnostics FailurePattern.fileGroup)
  cases hsearch : pattern.expr.search output.diagnostics with
  | none =>
    simp only [captured, hsearch, Option.bind_none, Option.map_none, Option.filter_none,
      Option.getD_none] at hfile ⊢
    simpa only [errorOf, find_of_none hsearch] using hfile
  | some found =>
    simp only [captured, hsearch, Option.bind_some] at hfile ⊢
    simpa only [errorOf, find_of_some hsearch] using hfile

theorem errorOf_message : (errorOf command pattern disk template output).message =
    (findingOf command pattern linted output).error := by
  simp only [errorOf, findingOf]
  cases pattern.find output.diagnostics <;> rfl

theorem errorOf_line_eq : (errorOf command pattern disk template output).line =
    (findingOf command pattern linted output).line := by
  simp only [errorOf, findingOf]
  cases pattern.find output.diagnostics <;> rfl

end Extraction

/-- How a run of the tool ends, and what each backend makes of it. -/
inductive Verdict (programs : Programs) (command : ToolCommand) (pattern : FailurePattern)
    (file : Path) (w : World) : Prop where
  | unstarted {fault : Fault} (w' : World)
      (outcome : command.outcome programs file w = .error fault)
      (compiled : (compiler programs command pattern).compile file w =
        .error (.failed (.tool command.program (.fault fault))) w')
      (linted : lintOne programs command pattern file w =
        .error (.failed (.tool command.program (.fault fault))) w')
  | clean {exit : Exit} (w' : World)
      (outcome : command.outcome programs file w = .ok exit) (status : exit.status = .exited 0)
      (compiled : (compiler programs command pattern).compile file w =
        .ok (.ok (Text.ofBytesLossy exit.stdout)) w')
      (linted : lintOne programs command pattern file w = .ok none w')
  | failed {exit : Exit} (w' : World)
      (outcome : command.outcome programs file w = .ok exit) (status : exit.status ≠ .exited 0)
      (compiled : (compiler programs command pattern).compile file w =
        .ok (.error (errorOf command pattern w.disk file (.ofExit exit))) w')
      (linted : lintOne programs command pattern file w =
        .ok (some (findingOf command pattern file (.ofExit exit))) w')

theorem verdict (programs : Programs) (command : ToolCommand) (pattern : FailurePattern)
    (file : Path) (w : World) : Verdict programs command pattern file w := by
  cases houtcome : command.outcome programs file w with
  | error fault =>
    obtain ⟨w', hrun⟩ := ToolCommand.run_of_error houtcome
    exact .unstarted w' houtcome (bind_of_error hrun) (bind_of_error hrun)
  | ok exit =>
    obtain ⟨w', hdisk, hrun⟩ := ToolCommand.run_of_ok houtcome
    have hstatus : (ToolOutput.ofExit exit).isSuccess ↔ exit.status = .exited 0 := beq_iff_eq
    by_cases hs : (ToolOutput.ofExit exit).isSuccess
    · refine .clean w' houtcome (hstatus.1 hs) ((bind_of_ok hrun).trans ?_)
        ((bind_of_ok hrun).trans ?_)
      · rw [if_pos hs]
        rfl
      · rw [if_pos hs]
        rfl
    · refine .failed w' houtcome (mt hstatus.2 hs) ((bind_of_ok hrun).trans ?_)
        ((bind_of_ok hrun).trans ?_)
      · rw [if_neg hs, readDisk_bind, hdisk]
        rfl
      · rw [if_neg hs]
        rfl

/-- The backends agree on one file. -/
structure Agree (programs : Programs) (command : ToolCommand) (pattern : FailurePattern)
    (file : Path) (w : World) : Prop where
  /-- Both fail in the same way, and only over a program that cannot be started. -/
  fatal : ∀ halt, (∃ w', (compiler programs command pattern).compile file w = .error halt w') ↔
    ∃ w', lintOne programs command pattern file w = .error halt w'
  unstarted : ∀ halt, (∃ w', lintOne programs command pattern file w = .error halt w') ↔
    ∃ fault, command.outcome programs file w = .error fault ∧
      halt = .failed (.tool command.program (.fault fault))
  /-- There is code, the output of the tool, exactly if there is nothing to report. -/
  clean : ∀ code, (∃ w', (compiler programs command pattern).compile file w = .ok (.ok code) w') ↔
    ∃ exit w', command.outcome programs file w = .ok exit ∧
      code = Text.ofBytesLossy exit.stdout ∧
      lintOne programs command pattern file w = .ok none w'
  /-- Nothing is reported of a run that ends with status zero, and of no other run. -/
  passed : (∃ w', lintOne programs command pattern file w = .ok none w') ↔
    ∃ exit, command.outcome programs file w = .ok exit ∧ exit.status = .exited 0
  failed : (∃ finding w', lintOne programs command pattern file w = .ok (some finding) w') ↔
    ∃ exit, command.outcome programs file w = .ok exit ∧ exit.status ≠ .exited 0
  /-- An error of a template goes with a finding of the same message and line. -/
  located : ∀ error,
    (∃ w', (compiler programs command pattern).compile file w = .ok (.error error) w') →
    ∃ exit heard finding w', command.outcome programs file w = .ok exit ∧
      exit.status ≠ .exited 0 ∧
      lintOne programs command pattern file w = .ok (some finding) w' ∧
      error.message = finding.error ∧ error.line = finding.line ∧ finding.file = file ∧
      (∀ t, ToolOutput.Heard exit t ↔ t = heard) ∧
      TellsLine (captured pattern heard FailurePattern.lineGroup) finding.line ∧
      TellsFile w.disk file (captured pattern heard FailurePattern.fileGroup) error.file

theorem Verdict.agree (h : Verdict programs command pattern file w) :
    Agree programs command pattern file w := by
  cases h with
  | unstarted w' houtcome hcompiled hlinted =>
    constructor <;> simp [houtcome, hcompiled, hlinted, eq_comm]
  | clean w' houtcome hstatus hcompiled hlinted =>
    constructor <;> simp [houtcome, hstatus, hcompiled, hlinted, eq_comm]
  | @failed exit w' houtcome hstatus hcompiled hlinted =>
    constructor
    · simp [hcompiled, hlinted]
    · simp [houtcome, hlinted]
    · simp [hcompiled, hlinted]
    · simp [houtcome, hstatus, hlinted]
    · simp [houtcome, hstatus, hlinted]
    · intro error h
      obtain ⟨w₁, h⟩ := h
      rw [hcompiled] at h
      obtain ⟨herror, -⟩ := EStateM.Result.ok.inj h
      obtain rfl := Except.error.inj herror
      refine ⟨exit, (ToolOutput.ofExit exit).diagnostics, _, w', houtcome, hstatus, hlinted,
        errorOf_message _ _ _ _ _ _, errorOf_line_eq _ _ _ _ _ _, findingOf_file _ _ _ _,
        fun t => ToolOutput.heard_iff, ?_, errorOf_file _ _ _ _ _⟩
      rw [← errorOf_line_eq command pattern w.disk file file]
      exact errorOf_line _ _ _ _ _

/-- Files that were linted one after the other, with what was found in each: something if its run has
failed, and nothing otherwise. Between two runs nothing happens to the disk, and no program is
started. -/
inductive Rounds (programs : Programs) (command : ToolCommand) (pattern : FailurePattern) :
    World → List Path → List (Option Finding) → World → Prop where
  | nil (w : World) : Rounds programs command pattern w [] [] w
  | cons {w w₁ w₂ w' : World} {file : Path} {found : Option Finding} {files : List Path}
      {founds : List (Option Finding)} {exit : Exit}
      (outcome : command.outcome programs file w = .ok exit)
      (status : found = none ↔ exit.status = .exited 0)
      (run : lintOne programs command pattern file w = .ok found w₁) (quiet : Quiet w₁ w₂)
      (rest : Rounds programs command pattern w₂ files founds w') :
      Rounds programs command pattern w (file :: files) (found :: founds) w'

/-- How linting a list of files ends: with all that was found, or at the first file for which the
program cannot be started. -/
inductive Collects (programs : Programs) (command : ToolCommand) (pattern : FailurePattern)
    (files : List Path) (w : World) : EStateM.Result (Halt CheckError) World (List Finding) → Prop where
  | all {founds : List (Option Finding)} {w' : World}
      (rounds : Rounds programs command pattern w files founds w') :
      Collects programs command pattern files w (.ok (founds.filterMap id) w')
  | stopped {before after : List Path} {file : Path} {founds : List (Option Finding)}
      {w₁ w' : World} {fault : Fault} (split : files = before ++ file :: after)
      (rounds : Rounds programs command pattern w before founds w₁)
      (outcome : command.outcome programs file w₁ = .error fault)
      (stop : lintOne programs command pattern file w₁ =
        .error (.failed (.tool command.program (.fault fault))) w') :
      Collects programs command pattern files w
        (.error (.failed (.tool command.program (.fault fault))) w')

/-- Puts what was found in one file in front of what is found later. -/
def prepend (found : Option Finding) :
    EStateM.Result (Halt CheckError) World (List Finding) →
      EStateM.Result (Halt CheckError) World (List Finding)
  | .ok findings w => .ok (found.toList ++ findings) w
  | .error halt w => .error halt w

theorem lintAll_cons {w₁ : World} {found : Option Finding}
    (hone : lintOne programs command pattern file w = .ok found w₁) (files : List Path) :
    ∃ w₂, Quiet w₁ w₂ ∧ lintAll programs command pattern (file :: files) w =
      prepend found (lintAll programs command pattern files w₂) := by
  rw [lintAll, bind_of_ok hone]
  cases found with
  | none =>
    refine ⟨w₁, .refl w₁, ?_⟩
    simp only
    cases lintAll programs command pattern files w₁ <;> rfl
  | some finding =>
    obtain ⟨w₂, hnote, hquiet⟩ : ∃ w₂, (note .debug .linterCommand
        ("Lint error in " ++ file.display ++ ": " ++ finding.error) : Check Unit) w₁ = .ok () w₂ ∧
          Quiet w₁ w₂ := note_ok _ _ _ w₁
    refine ⟨w₂, hquiet, (bind_of_ok hnote).trans ?_⟩
    cases hrest : lintAll programs command pattern files w₂ with
    | ok findings w' => exact bind_of_ok hrest
    | error halt w' => exact bind_of_error hrest

theorem Collects.cons {w₁ w₂ : World} {found : Option Finding} {files : List Path} {exit : Exit}
    {result : EStateM.Result (Halt CheckError) World (List Finding)}
    (houtcome : command.outcome programs file w = .ok exit)
    (hstatus : found = none ↔ exit.status = .exited 0)
    (hone : lintOne programs command pattern file w = .ok found w₁) (hquiet : Quiet w₁ w₂)
    (h : Collects programs command pattern files w₂ result) :
    Collects programs command pattern (file :: files) w (prepend found result) := by
  cases h with
  | @all founds w' rounds =>
    have hfound : found.toList ++ founds.filterMap id = (found :: founds).filterMap id := by
      cases found <;> rfl
    rw [prepend, hfound]
    exact .all (.cons houtcome hstatus hone hquiet rounds)
  | stopped split rounds outcome stop =>
    exact .stopped (by rw [split, List.cons_append])
      (.cons houtcome hstatus hone hquiet rounds) outcome stop

theorem collects (programs : Programs) (command : ToolCommand) (pattern : FailurePattern)
    (files : List Path) (w : World) :
    Collects programs command pattern files w (lintAll programs command pattern files w) := by
  induction files generalizing w with
  | nil => exact .all (.nil w)
  | cons file rest ih =>
    cases verdict programs command pattern file w with
    | unstarted w₁ houtcome _ hone =>
      rw [lintAll, bind_of_error hone]
      exact .stopped (show file :: rest = [] ++ file :: rest from rfl) (.nil w) houtcome hone
    | clean w₁ houtcome hstatus _ hone =>
      obtain ⟨w₂, hquiet, hall⟩ := lintAll_cons hone rest
      rw [hall]
      exact .cons houtcome (iff_of_true rfl hstatus) hone hquiet (ih w₂)
    | failed w₁ houtcome hstatus _ hone =>
      obtain ⟨w₂, hquiet, hall⟩ := lintAll_cons hone rest
      rw [hall]
      exact .cons houtcome (iff_of_false (by simp) hstatus) hone hquiet (ih w₂)

theorem backends_locate_alike (programs : Programs) (command : ToolCommand)
    (pattern : FailurePattern) (extension : Text) :
    (∀ file w, Agree programs command pattern file w) ∧
    ∀ files w, Collects programs command pattern files w
      ((linter programs command pattern extension).lint files w) := by
  constructor
  · intro file w
    exact (verdict programs command pattern file w).agree
  · intro files w
    exact collects programs command pattern files w

end Backend

end TemplateCheck
