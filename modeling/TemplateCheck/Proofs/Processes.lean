import TemplateCheck.Backend
import TemplateCheck.Proofs.Naming
import TemplateCheck.Proofs.Trace

/-!
The capabilities that run programs start one process for each file that they are given, in order, and
leave the disk alone. A template fails exactly where its process does, and there is one finding for
each file whose process failed.
-/
namespace TemplateCheck

open CheckM

def Process.succeeded (p : Process) : Bool :=
  match p.outcome with
  | .ok exit => exit.status.isSuccess
  | .error _ => false

/-- Processes that were started one after the other, after some that were started before: each came out
as the programs have it. -/
def Programs.Ran (programs : Programs) : Array Process → List Process → Prop
  | _, [] => True
  | before, run :: rest => run.outcome = programs.start before run.disk run.program run.args ∧
    programs.Ran (before.push run) rest

theorem Programs.ran_append {programs : Programs} {before : Array Process} {runs others : List Process} :
    programs.Ran before (runs ++ others) ↔
      programs.Ran before runs ∧ programs.Ran (before ++ runs) others := by
  induction runs generalizing before with
  | nil => simp [Ran]
  | cons run rest ih =>
    have hpush : before.push run ++ rest = before ++ (run :: rest) := by simp
    simp only [List.cons_append, Ran, ih, and_assoc, hpush]

namespace ToolCommand

def outcome (programs : Programs) (c : ToolCommand) (file : Path) (w : World) : Except Fault Exit :=
  programs.start w.processes w.disk c.program (c.argsFor file)

def process (c : ToolCommand) (file : Path) (disk : Disk) (exit : Exit) : Process :=
  ⟨c.program, c.argsFor file, file, disk, .ok exit⟩

@[simp] theorem succeeded_process (c : ToolCommand) (file : Path) (disk : Disk) (exit : Exit) :
    (c.process file disk exit).succeeded = exit.status.isSuccess := rfl

/-- A process of the tool on a path: a text that names the path stands where the placeholder was. -/
def RunOn (c : ToolCommand) (path : Path) (run : Process) : Prop :=
  ∃ t, path = .ofText t ∧ run.program = c.program ∧
    run.args = c.args.map (Text.replace placeholder t)

/-- Processes that were handed their files as they are shown. Such a process is one on its file
exactly if a text names the file. -/
def Handed (c : ToolCommand) (runs : List Process) : Prop :=
  ∀ run ∈ runs, c.RunOn (.ofText run.file.display) run ∧
    (c.RunOn run.file run ↔ ∃ t, run.file = .ofText t)

theorem handed_of_process {c : ToolCommand} {runs : List Process}
    (h : ∀ run ∈ runs, ∃ file disk exit, run = c.process file disk exit) : c.Handed runs := by
  intro run hrun
  obtain ⟨file, disk, exit, rfl⟩ := h run hrun
  refine ⟨⟨file.display, rfl, rfl, rfl⟩, ?_, ?_⟩
  · rintro ⟨t, hfile, -, -⟩
    exact ⟨t, hfile⟩
  · rintro ⟨t, hfile⟩
    have hargs : c.argsFor file = c.args.map (Text.replace placeholder t) := by
      rw [argsFor, show file = .ofText t from hfile, Path.display_ofText]
    exact ⟨t, hfile, rfl, hargs⟩

variable {programs : Programs} {c : ToolCommand} {file : Path} {w w' : World}

theorem run_eq_ok {output : ToolOutput} (h : c.run programs file w = .ok output w') :
    ∃ exit, output = .ofExit exit ∧ c.outcome programs file w = .ok exit ∧ w'.disk = w.disk ∧
      w'.processes = w.processes.push (c.process file w.disk exit) := by
  obtain ⟨_, w₁, hn, h⟩ := bind_eq_ok.1 h
  obtain ⟨outcome, w₂, hl, h⟩ := bind_eq_ok.1 h
  have hq := note_eq_ok hn
  have hlaunch : outcome = c.outcome programs file w₁ ∧ w₂ = { w₁ with
      processes := w₁.processes.push ⟨c.program, c.argsFor file, file, w₁.disk, outcome⟩ } := by
    cases hl
    exact ⟨rfl, rfl⟩
  obtain ⟨hstart, hafter⟩ := hlaunch
  rw [ToolCommand.outcome, hq.disk, hq.processes] at hstart
  cases outcome with
  | error fault => exact absurd h fail_ne_ok
  | ok exit =>
    obtain ⟨rfl, rfl⟩ := pure_eq_ok.1 h
    refine ⟨exit, rfl, hstart.symm, ?_, ?_⟩
    · rw [hafter, hq.disk]
    · rw [hafter, hq.disk, hq.processes]
      rfl

end ToolCommand

namespace Backend

variable {programs : Programs} {command : ToolCommand} {pattern : FailurePattern} {w w' : World}

theorem compile_eq_ok {path : Path} {answer : Except CompileError Text}
    (h : (compiler programs command pattern).compile path w = .ok answer w') :
    ∃ exit, command.outcome programs path w = .ok exit ∧ w'.disk = w.disk ∧
      w'.processes = w.processes.push (command.process path w.disk exit) ∧
      (exit.status.isSuccess ∧ answer = .ok (Text.ofBytesLossy exit.stdout) ∨
        exit.status.isSuccess = false ∧ ∃ error, answer = .error error) := by
  obtain ⟨output, w₁, hr, h⟩ := bind_eq_ok.1 h
  obtain ⟨exit, rfl, ho, hd, hp⟩ := ToolCommand.run_eq_ok hr
  by_cases hs : exit.status.isSuccess
  · have hout : (ToolOutput.ofExit exit).isSuccess := hs
    rw [if_pos hout] at h
    obtain ⟨rfl, rfl⟩ := pure_eq_ok.1 h
    exact ⟨exit, ho, hd, hp, .inl ⟨hs, rfl⟩⟩
  · have hout : ¬(ToolOutput.ofExit exit).isSuccess := hs
    rw [if_neg hout, readDisk_bind] at h
    obtain ⟨rfl, rfl⟩ := pure_eq_ok.1 h
    exact ⟨exit, ho, hd, hp, .inr ⟨by simpa using hs, _, rfl⟩⟩

theorem compiler_keepsDisk : (compiler programs command pattern).KeepsDisk := by
  intro path w w' answer h
  obtain ⟨exit, -, hd, -⟩ := compile_eq_ok h
  exact hd

theorem findingOf_file (command : ToolCommand) (pattern : FailurePattern) (file : Path)
    (output : ToolOutput) : (findingOf command pattern file output).file = file := by
  simp only [findingOf]
  cases pattern.find output.diagnostics <;> rfl

theorem lintOne_eq_ok {file : Path} {found : Option Finding}
    (h : lintOne programs command pattern file w = .ok found w') :
    ∃ exit, command.outcome programs file w = .ok exit ∧ w'.disk = w.disk ∧
      w'.processes = w.processes.push (command.process file w.disk exit) ∧
      (exit.status.isSuccess ↔ found = none) := by
  obtain ⟨output, w₁, hr, h⟩ := bind_eq_ok.1 h
  obtain ⟨exit, rfl, ho, hd, hp⟩ := ToolCommand.run_eq_ok hr
  by_cases hs : exit.status.isSuccess
  · have hout : (ToolOutput.ofExit exit).isSuccess := hs
    rw [if_pos hout] at h
    obtain ⟨rfl, rfl⟩ := pure_eq_ok.1 h
    exact ⟨exit, ho, hd, hp, by simp [hs]⟩
  · have hout : ¬(ToolOutput.ofExit exit).isSuccess := hs
    rw [if_neg hout] at h
    obtain ⟨rfl, rfl⟩ := pure_eq_ok.1 h
    exact ⟨exit, ho, hd, hp, by simp [hs]⟩

/-- One process for each file, and one finding for each process that failed. -/
theorem lintAll_eq_ok {files : List Path} {findings : List Finding}
    (h : lintAll programs command pattern files w = .ok findings w') :
    w'.disk = w.disk ∧ ∃ runs : List Process,
      w'.processes = w.processes ++ runs ∧ programs.Ran w.processes runs ∧
      List.Forall₂ (fun file run => ∃ exit, run = command.process file w.disk exit) files runs ∧
      findings.length = runs.countP fun run => !run.succeeded := by
  induction files generalizing w findings with
  | nil =>
    obtain ⟨rfl, rfl⟩ := pure_eq_ok.1 h
    exact ⟨rfl, [], by simp, trivial, .nil, rfl⟩
  | cons file rest ih =>
    rw [lintAll] at h
    obtain ⟨found, w₁, hone, h⟩ := bind_eq_ok.1 h
    obtain ⟨exit, ho, hd, hp, hs⟩ := lintOne_eq_ok hone
    cases found with
    | none =>
      obtain ⟨hdisk, runs, hruns, hran, hall, hcount⟩ := ih h
      rw [hd] at hdisk hall
      rw [hp] at hruns hran
      refine ⟨hdisk, command.process file w.disk exit :: runs, by simp [hruns], ⟨ho.symm, hran⟩,
        .cons ⟨exit, rfl⟩ hall, ?_⟩
      simp [hcount, hs.2 rfl]
    | some finding =>
      obtain ⟨_, w₂, hn, h⟩ := bind_eq_ok.1 h
      obtain ⟨others, w₃, hr, h⟩ := bind_eq_ok.1 h
      obtain ⟨rfl, rfl⟩ := pure_eq_ok.1 h
      have hq := note_eq_ok hn
      obtain ⟨hdisk, runs, hruns, hran, hall, hcount⟩ := ih hr
      rw [hq.disk, hd] at hdisk hall
      rw [hq.processes, hp] at hruns hran
      have hfail : exit.status.isSuccess = false := by simpa using mt hs.1 (by simp)
      refine ⟨hdisk, command.process file w.disk exit :: runs, by simp [hruns], ⟨ho.symm, hran⟩,
        .cons ⟨exit, rfl⟩ hall, ?_⟩
      simp [hcount, hfail]

theorem linter_keepsDisk {extension : Text} :
    (linter programs command pattern extension).KeepsDisk := by
  constructor
  · intro root w w' files h
    simp only [linter, readDisk_bind] at h
    exact (ofExcept_eq_ok.1 h).2 ▸ rfl
  · intro files w w' findings h
    exact (lintAll_eq_ok h).1

end Backend

namespace Compilation

variable {root : Path} {programs : Programs} {command : ToolCommand} {pattern : FailurePattern}
  {extension : Text} {w w' : World} {done done' : Compilation} {attempts : List Attempt}

def Attempt.RunBy (command : ToolCommand) (a : Attempt) (run : Process) : Prop :=
  ∃ exit, run = command.process a.source a.asked.disk exit ∧
    (exit.status.isSuccess ∧ a.answer = .ok (Text.ofBytesLossy exit.stdout) ∨
      exit.status.isSuccess = false ∧ ∃ error, a.answer = .error error)

theorem Attempt.RunBy.failed_iff {a : Attempt} {run : Process} (h : a.RunBy command run) :
    a.failed = !run.succeeded := by
  obtain ⟨exit, rfl, ⟨hs, ha⟩ | ⟨hs, error, ha⟩⟩ := h <;>
    simp [Attempt.failed, Attempt.succeeded, ha, hs, Except.isOk, Except.toBool]

theorem countP_failed {runs : List Process} (h : List.Forall₂ (Attempt.RunBy command) attempts runs) :
    attempts.countP Attempt.failed = runs.countP fun run => !run.succeeded := by
  induction h with
  | nil => rfl
  | cons h _ ih => simp [List.countP_cons, h.failed_iff, ih]

theorem Course.processes
    (c : Course root (Backend.compiler programs command pattern) extension w done attempts done' w') :
    ∃ runs : List Process, w'.processes = w.processes ++ runs ∧ programs.Ran w.processes runs ∧
      List.Forall₂ (Attempt.RunBy command) attempts runs := by
  induction c with
  | nil w done => exact ⟨[], by simp, trivial, .nil⟩
  | @cons w w₁ w' done done₁ done' a rest t _ ih =>
    obtain ⟨runs, hruns, hran, hall⟩ := ih
    obtain ⟨w₂, hs, rfl⟩ := t.settled
    obtain ⟨exit, ho, -, hp, hanswer⟩ := Backend.compile_eq_ok t.called
    have hasked := (prepare_adds t.prepared).2
    have hpush : w₂.processes = w.processes.push (command.process a.source a.asked.disk exit) := by
      rw [(settle_grows hs).2, hp, hasked]
    rw [ToolCommand.outcome, hasked] at ho
    simp only [hpush] at hruns hran
    exact ⟨command.process a.source a.asked.disk exit :: runs, by simp [hruns], ⟨ho.symm, hran⟩,
      .cons ⟨exit, rfl, hanswer⟩ hall⟩

end Compilation

end TemplateCheck
