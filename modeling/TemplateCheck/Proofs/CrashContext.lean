import TemplateCheck.Backend
import TemplateCheck.Proofs.Delivery
import TemplateCheck.Proofs.Stopping

/-!
Whenever the compiler is asked about a template, the context names the phase and that template, and
the counters tell how many templates came before it, as long as the compiler does not set them itself.
So this is what a crash of the compiler reports, with the template as it is shown. However a stage ends, its guards have put the context back by then, whatever a capability has done to
it in between.
-/
namespace TemplateCheck

open CheckM

namespace CheckM

theorem within_context {ε α : Type} (setting : Setting) (x : CheckM ε α) :
    (within setting x).Leaves World.context := by
  intro w
  unfold worldAfter within
  simp only [Context.enter]
  cases x { w with context := w.context.apply setting } <;> rfl

theorem within_congr {ε α : Type} {setting : Setting} {x y : CheckM ε α} {w : World}
    (h : x (w.enter setting) = y (w.enter setting)) : within setting x w = within setting y w := by
  unfold World.enter at h
  simp only [within, Context.enter, h]

end CheckM

theorem World.aside_context : World.Aside World.context where
  disk _ _ := rfl
  progress _ _ := rfl
  log _ _ := rfl
  calls _ _ := rfl
  processes _ _ := rfl
  release _ _ _ _ := rfl

theorem Pipeline.run_context (dirs : List Path) (root : Path) (compiler : Compiler) (linter : Linter)
    (options : Options) : (run dirs root compiler linter options).Leaves World.context := by
  have h := World.aside_context
  refine .bind (within_context _ _) fun discovery => .note_if h ?_
  refine .bind (.ensureDirectory h root) fun _ => .bind (.canonicalize root) fun root => ?_
  refine .bind (within_context _ _) fun outcome => .bind (.note h) fun _ => ?_
  exact .bind (within_context _ _) fun _ => .pure _

namespace Compilation

variable {root : Path} {compiler : Compiler} {extension : Text} {w w' : World}
  {done done' : Compilation} {source target : Path} {a : Attempt} {attempts : List Attempt}

theorem ensureDirectory_keeps {p : Path} {u : Unit} (h : Check.ensureDirectory p w = .ok u w') :
    w'.context = w.context ∧ w'.progress = w.progress := by
  rcases Check.ensureDirectory_eq_ok.1 h with ⟨-, rfl⟩ | ⟨disk, -, -, rfl⟩
  · exact ⟨rfl, rfl⟩
  · exact ⟨rfl, rfl⟩

theorem prepare_keeps (h : prepare root extension source w = .ok target w') :
    w'.context = w.context ∧ w'.progress = w.progress := by
  obtain ⟨t, w₀, hl, hrest⟩ := bind_eq_ok.1 h
  obtain ⟨u, w₁, hm, hend⟩ := bind_eq_ok.1 hrest
  obtain ⟨-, -, rfl⟩ := locate_eq_ok.1 hl
  have hroom : w₁.context = w₀.context ∧ w₁.progress = w₀.progress := by
    cases hparent : t.parent with
    | some directory =>
      rw [makeRoom, hparent] at hm
      exact ensureDirectory_keeps hm
    | none =>
      rw [makeRoom, hparent] at hm
      obtain ⟨-, rfl⟩ := pure_eq_ok.1 hm
      exact ⟨rfl, rfl⟩
  cases hend
  exact hroom

theorem settle_advances {answer : Except CompileError Text}
    (h : settle done source target answer w = .ok done' w') : w'.progress = w.progress.advance := by
  cases answer with
  | ok code =>
    obtain ⟨_, w₁, hw, hrest⟩ := bind_eq_ok.1 h
    obtain ⟨artifact, w₂, hc, hend⟩ := bind_eq_ok.1 hrest
    obtain ⟨disk, -, rfl⟩ := Check.writeText_eq_ok.1 hw
    obtain ⟨-, rfl⟩ := Check.canonicalize_eq_ok.1 hc
    cases hend
    rfl
  | error error =>
    obtain ⟨_, w₁, hn, hrest⟩ := bind_eq_ok.1 h
    obtain ⟨content, w₂, hr, hend⟩ := bind_eq_ok.1 hrest
    obtain ⟨-, rfl⟩ := Check.readText_eq_ok.1 hr
    cases hn
    cases hend
    rfl

theorem Turn.context_eq (t : Turn root compiler extension w done a done' w') :
    w'.context = w.context := by
  obtain ⟨w₁, -, rfl⟩ := t.settled
  rfl

/-- A compiler that leaves the counters alone, as far as this answer shows. -/
def Attempt.KeepsProgress (a : Attempt) : Prop := a.answered.progress = a.asked.progress

theorem Turn.progress_eq (t : Turn root compiler extension w done a done' w') (ha : a.KeepsProgress) :
    w'.progress = w.progress.advance := by
  obtain ⟨w₁, hs, rfl⟩ := t.settled
  have hasked : a.asked.progress = w.progress := (prepare_keeps t.prepared).2
  have hadvanced : w₁.progress = a.answered.progress.advance := settle_advances hs
  rw [hadvanced, ha, hasked]

theorem Course.context_eq (c : Course root compiler extension w done attempts done' w') :
    w'.context = w.context := by
  induction c with
  | nil w done => rfl
  | cons t _ ih => rw [ih, t.context_eq]

theorem Course.progress_eq (c : Course root compiler extension w done attempts done' w')
    (hkeeps : ∀ a ∈ attempts, a.KeepsProgress) {n : Nat} {total : UInt64}
    (hstart : w.progress = ⟨UInt64.ofNat n, total⟩) :
    w'.progress = ⟨UInt64.ofNat (n + attempts.length), total⟩ := by
  induction c generalizing n with
  | nil w done => simpa using hstart
  | @cons w w₁ w' done done₁ done' a rest t _ ih =>
    rw [List.forall_mem_cons] at hkeeps
    have hnext : w₁.progress = ⟨UInt64.ofNat (n + 1), total⟩ := by
      rw [t.progress_eq hkeeps.1, hstart, Progress.advance, UInt64.ofNat_add]
      rfl
    rw [ih hkeeps.2 hnext, List.length_cons]
    congr 2
    omega

/-- The compiler is asked about a source in a world: the attempts that are given came before, and all
that precedes the answer has been done. -/
def Asked (root : Path) (sources : List Path) (compiler : Compiler) (extension : Text) (w : World)
    (before : List Attempt) (source : Path) (asked : World) : Prop :=
  ∃ begun rest done v, Check.ensureDirectory root (opened w sources) = .ok () begun ∧
    sources = before.map Attempt.source ++ source :: rest ∧
    Course root compiler extension begun {} before done v ∧
    prepare root extension source (v.enter (.file source)) =
      .ok (Artifact.path root source extension) asked

variable {sources : List Path} {before : List Attempt} {asked : World}

theorem Asked.source_eq (h : Asked root sources compiler extension w before source asked) :
    sources[before.length]? = some source := by
  obtain ⟨begun, rest, done, v, -, rfl, -⟩ := h
  simp

theorem Asked.context_eq (h : Asked root sources compiler extension w before source asked) :
    asked.context = ⟨some .compile, some source⟩ := by
  obtain ⟨begun, rest, done, v, hbegun, -, hcourse, hprepared⟩ := h
  have hbegun : begun.context = (opened w sources).context := (ensureDirectory_keeps hbegun).1
  have hturn : v.context = begun.context := hcourse.context_eq
  calc asked.context = (v.enter (.file source)).context := (prepare_keeps hprepared).1
    _ = v.context.apply (.file source) := rfl
    _ = (w.context.apply (.phase .compile)).apply (.file source) := by rw [hturn, hbegun]; rfl
    _ = ⟨some .compile, some source⟩ := rfl

theorem Asked.progress_eq (h : Asked root sources compiler extension w before source asked)
    (hkeeps : ∀ a ∈ before, a.KeepsProgress) :
    asked.progress = ⟨UInt64.ofNat before.length, UInt64.ofNat sources.length⟩ := by
  obtain ⟨begun, rest, done, v, hbegun, -, hcourse, hprepared⟩ := h
  have hstart : begun.progress = ⟨UInt64.ofNat 0, UInt64.ofNat sources.length⟩ :=
    (ensureDirectory_keeps hbegun).2
  have hcounted := hcourse.progress_eq hkeeps hstart
  rw [Nat.zero_add] at hcounted
  exact (prepare_keeps hprepared).2.trans hcounted

theorem asked_of_steps (rest : List Path) {first : List Path} {target : Path}
    (h : (Check.ensureDirectory root >>= fun _ => compileAll root compiler extension {} first >>=
        fun _ v => prepare root extension source (v.enter (.file source)))
      (opened w (first ++ source :: rest)) = .ok target asked) :
    ∃ before, before.map Attempt.source = first ∧
      Asked root (first ++ source :: rest) compiler extension w before source asked := by
  obtain ⟨_, begun, hbegun, h⟩ := bind_eq_ok.1 h
  obtain ⟨done, v, hall, hprepared⟩ := bind_eq_ok.1 h
  obtain ⟨before, hsources, hcourse⟩ := compileAll_eq_ok.1 hall
  obtain ⟨rfl, -⟩ := prepare_eq_ok hprepared
  exact ⟨before, hsources, begun, rest, done, v, hbegun, by rw [hsources], hcourse, hprepared⟩

theorem Asked.halts (h : Asked root sources compiler extension w before source asked)
    {halt : Halt CheckError} {v : World} (hcall : compiler.compile source asked = .error halt v) :
    ∃ w', run root sources compiler extension w = .error halt w' := by
  obtain ⟨begun, rest, done, u, hbegun, hs, hcourse, hprepared⟩ := h
  have hcomes : ComesTo root sources compiler extension w source u :=
    ⟨begun, before, rest, done, hbegun, hs, hcourse⟩
  obtain ⟨w', hrun, -⟩ := halts_run.2 (.inr (.inl ⟨source, u, hcomes,
    .compiler hprepared ⟨v, hcall, rfl⟩⟩))
  exact ⟨w', hrun⟩

theorem compileOne_congr {other : Compiler}
    (h : ∀ asked, prepare root extension source (w.enter (.file source)) =
        .ok (Artifact.path root source extension) asked →
      other.compile source asked = compiler.compile source asked) :
    compileOne root other extension done source w = compileOne root compiler extension done source w := by
  refine within_congr ?_
  cases hp : prepare root extension source (w.enter (.file source)) with
  | error halt w₁ => rw [bind_of_error hp, bind_of_error hp]
  | ok target asked =>
    obtain ⟨rfl, -⟩ := prepare_eq_ok hp
    rw [bind_of_ok hp, bind_of_ok hp]
    simp only [bind, EStateM.bind, h asked hp]

theorem compileAll_congr {other : Compiler}
    (h : ∀ before source rest done₁ v asked, sources = before.map Attempt.source ++ source :: rest →
      Course root compiler extension w done before done₁ v →
      prepare root extension source (v.enter (.file source)) =
        .ok (Artifact.path root source extension) asked →
      other.compile source asked = compiler.compile source asked) :
    compileAll root other extension done sources w =
      compileAll root compiler extension done sources w := by
  induction sources generalizing done w with
  | nil => rfl
  | cons first others ih =>
    have hfirst : compileOne root other extension done first w =
        compileOne root compiler extension done first w :=
      compileOne_congr fun asked => h [] first others done w asked rfl (.nil _ _)
    rw [compileAll, compileAll]
    cases hone : compileOne root compiler extension done first w with
    | error halt w₁ => rw [bind_of_error hone, bind_of_error (hfirst.trans hone)]
    | ok done₁ w₁ =>
      rw [bind_of_ok hone, bind_of_ok (hfirst.trans hone)]
      obtain ⟨a, rfl, turn⟩ := compileOne_eq_ok.1 hone
      refine ih fun before source rest done₂ v asked hs hcourse hprepared => ?_
      refine h (a :: before) source rest done₂ v asked ?_ (.cons turn hcourse) hprepared
      rw [hs]
      rfl

theorem run_congr {other : Compiler}
    (h : ∀ before source asked, Asked root sources compiler extension w before source asked →
      other.compile source asked = compiler.compile source asked) :
    run root sources other extension w = run root sources compiler extension w := by
  refine within_congr ?_
  -- the counters are set at once, and then the root is made
  change (Check.ensureDirectory root >>= fun _ => compileAll root other extension {} sources)
      (opened w sources) =
    (Check.ensureDirectory root >>= fun _ => compileAll root compiler extension {} sources)
      (opened w sources)
  cases hbegun : Check.ensureDirectory root (opened w sources) with
  | error halt w₁ => rw [bind_of_error hbegun, bind_of_error hbegun]
  | ok u begun =>
    rw [bind_of_ok hbegun, bind_of_ok hbegun]
    refine compileAll_congr fun before source rest done v asked hs hcourse hprepared => ?_
    exact h before source asked ⟨begun, rest, done, v, hbegun, hs, hcourse, hprepared⟩

end Compilation

theorem Crash.contextRows_of_call {source : Path} {i n : Nat} (hi : i < n) (hn : n < UInt64.size) :
    contextRows ⟨some .compile, some source⟩ ⟨UInt64.ofNat i, UInt64.ofNat n⟩ =
      [row "Phase:    " "compile", row "File:     " source.display,
        row "Progress: " (Text.decimal i ++ "/" ++ Text.decimal n ++ " files")] := by
  have hcount : ∀ k ≤ n, (UInt64.ofNat k).toNat = k :=
    fun k hk => UInt64.toNat_ofNat_of_lt' (Nat.lt_of_le_of_lt hk hn)
  have hpositive : 0 < UInt64.ofNat n := by
    rw [UInt64.lt_iff_toNat_lt, hcount n le_rfl]
    exact Nat.lt_of_le_of_lt (Nat.zero_le i) hi
  simp only [contextRows, Option.map_some, Option.toList_some, if_pos hpositive, hcount i hi.le,
    hcount n le_rfl]
  rfl

namespace Backend

variable {programs : Programs} {command : ToolCommand} {pattern : FailurePattern} {w w' : World}

/-- A compiler that runs a program leaves the counters alone. -/
theorem compile_progress {path : Path} {answer : Except CompileError Text}
    (h : (compiler programs command pattern).compile path w = .ok answer w') :
    w'.progress = w.progress := by
  obtain ⟨output, w₁, hr, hrest⟩ := bind_eq_ok.1 h
  have hrun : w₁.progress = w.progress := by
    obtain ⟨_, w₂, hn, hr⟩ := bind_eq_ok.1 hr
    obtain ⟨outcome, w₃, hl, hr⟩ := bind_eq_ok.1 hr
    have hlaunch : w₃.progress = w₂.progress := by
      cases hl
      rfl
    cases outcome with
    | error fault => exact absurd hr fail_ne_ok
    | ok exit =>
      obtain ⟨-, rfl⟩ := pure_eq_ok.1 hr
      cases hn
      exact hlaunch
  by_cases hs : output.isSuccess
  · rw [if_pos hs] at hrest
    obtain ⟨-, rfl⟩ := pure_eq_ok.1 hrest
    exact hrun
  · rw [if_neg hs, readDisk_bind] at hrest
    obtain ⟨-, rfl⟩ := pure_eq_ok.1 hrest
    exact hrun

end Backend

theorem Compilation.Course.keepsProgress {root : Path} {programs : Programs} {command : ToolCommand}
    {pattern : FailurePattern} {extension : Text} {w w' : World} {done done' : Compilation}
    {attempts : List Attempt}
    (c : Course root (Backend.compiler programs command pattern) extension w done attempts done' w') :
    ∀ a ∈ attempts, a.KeepsProgress := by
  induction c with
  | nil w done => simp
  | cons t _ ih => exact List.forall_mem_cons.2 ⟨Backend.compile_progress t.called, ih⟩

namespace Compilation

/-- What holds whenever the compiler is asked about a source: it is the one whose turn it is, the
context names it, the counters tell how many came before it unless the compiler has set them itself,
and a crash is reported with just that. -/
structure CallExact (root : Path) (sources : List Path) (compiler : Compiler) (extension : Text)
    (w : World) (before : List Attempt) (source : Path) (asked : World) : Prop where
  turn : sources[before.length]? = some source
  context : asked.context = ⟨some .compile, some source⟩
  progress : (∀ a ∈ before, a.KeepsProgress) →
    asked.progress = ⟨UInt64.ofNat before.length, UInt64.ofNat sources.length⟩
  crash : ∀ payload, compiler.compile source asked = CheckM.crash payload asked →
    ∃ w', run root sources compiler extension w =
      .error (.crashed ⟨some payload, ⟨some .compile, some source⟩, asked.progress⟩) w'
  report : (∀ a ∈ before, a.KeepsProgress) → sources.length < UInt64.size →
    Crash.contextRows asked.context asked.progress =
      [Crash.row "Phase:    " "compile", Crash.row "File:     " source.display,
        Crash.row "Progress: "
          (Text.decimal before.length ++ "/" ++ Text.decimal sources.length ++ " files")]

theorem Asked.exact {root : Path} {sources : List Path} {compiler : Compiler} {extension : Text}
    {w : World} {before : List Attempt} {source : Path} {asked : World}
    (h : Asked root sources compiler extension w before source asked) :
    CallExact root sources compiler extension w before source asked where
  turn := h.source_eq
  context := h.context_eq
  progress := h.progress_eq
  crash payload hcall := by
    obtain ⟨w', hrun⟩ := h.halts (hcall.trans rfl)
    exact ⟨w', h.context_eq ▸ hrun⟩
  report hkeeps hn := by
    have hi : before.length < sources.length := (List.getElem?_eq_some_iff.1 h.source_eq).1
    rw [h.context_eq, h.progress_eq hkeeps]
    exact Crash.contextRows_of_call hi hn

/-- The compiler is asked about each source under exactly the context that a crash would report, and
asked nothing else; and every stage gives the context back, whichever way it ends. -/
theorem crash_context_exact (root : Path) (sources : List Path) (compiler : Compiler)
    (extension : Text) (w : World) :
    (∀ before source asked, Asked root sources compiler extension w before source asked →
      CallExact root sources compiler extension w before source asked) ∧
    (∀ other : Compiler, (∀ before source asked,
        Asked root sources compiler extension w before source asked →
        other.compile source asked = compiler.compile source asked) →
      run root sources other extension w = run root sources compiler extension w) ∧
    (∀ programs command pattern before source asked,
      Asked root sources (Backend.compiler programs command pattern) extension w before source asked →
      asked.progress = ⟨UInt64.ofNat before.length, UInt64.ofNat sources.length⟩) ∧
    (run root sources compiler extension).Leaves World.context ∧
    (∀ compiled linter m, (Linting.run compiled linter m).Leaves World.context) ∧
    (∀ dirs templates exclude, (Discovery.run dirs templates exclude).Leaves World.context) ∧
    ∀ dirs compiled linter options,
      (Pipeline.run dirs compiled compiler linter options).Leaves World.context := by
  refine ⟨fun before source asked h => h.exact, fun other h => run_congr h, ?_, within_context _ _,
    fun _ _ _ => within_context _ _, fun _ _ _ => within_context _ _,
    fun dirs compiled linter options => Pipeline.run_context dirs compiled compiler linter options⟩
  intro programs command pattern before source asked h
  have ⟨_, _, _, _, _, _, hcourse, _⟩ := h
  exact h.progress_eq hcourse.keepsProgress

def crashingDisk : Disk where
  entries := [(["t"], .directory), (["t", "a.latte"], .file (Text.bytes "A")),
    (["t", "b.latte"], .file (Text.bytes "B")), (["t", "c.latte"], .file (Text.bytes "C"))]
  workdir := []
  workdir_names := Path.allNames_nil

/-- A world that is busy with a report while the compilation starts. -/
def crashingWorld : World := { disk := crashingDisk, context := ⟨some .report, some "/r"⟩ }

def crashingSources : List Path := ["/t/a.latte", "/t/b.latte", "/t/c.latte"]

/-- The second template is the one that the compiler crashes on. -/
def crashingCompiler : Compiler :=
  Scripted.compiler [("a.latte", .code "A"), ("b.latte", .crash "boom")]

theorem crash_context_exact_second : ∃ before asked,
    Asked "/out" crashingSources crashingCompiler "php" crashingWorld before "/t/b.latte" asked ∧
    (∀ a ∈ before, a.KeepsProgress) ∧ asked.context = ⟨some .compile, some "/t/b.latte"⟩ ∧
    asked.progress = ⟨1, 3⟩ ∧
    (∃ w', run "/out" crashingSources crashingCompiler "php" crashingWorld =
      .error (.crashed ⟨some "boom", ⟨some .compile, some "/t/b.latte"⟩, ⟨1, 3⟩⟩) w') ∧
    ((run "/out" crashingSources crashingCompiler "php").worldAfter crashingWorld).context =
      ⟨some .report, some "/r"⟩ := by
  -- the steps up to the second question
  have hsteps : (outcome? (fun _ _ => ()) ((Check.ensureDirectory "/out" >>= fun _ =>
      compileAll "/out" crashingCompiler "php" {} ["/t/a.latte"] >>= fun _ v =>
        prepare "/out" "php" "/t/b.latte" (v.enter (.file "/t/b.latte")))
      (opened crashingWorld crashingSources))).isSome := by
    decide +kernel
  obtain ⟨_, hsteps⟩ := Option.isSome_iff_exists.1 hsteps
  obtain ⟨target, asked, hsteps, -⟩ := exists_of_outcome hsteps
  obtain ⟨before, hsources, hasked⟩ := asked_of_steps ["/t/c.latte"] hsteps
  have hlength : before.length = 1 := by simpa using congrArg List.length hsources
  have hkeeps : ∀ a ∈ before, a.KeepsProgress := by
    have ⟨_, _, _, _, _, _, hcourse, _⟩ := hasked
    cases hcourse with
    | nil => simp at hlength
    | @cons _ _ _ _ _ _ a rest turn _ =>
      obtain rfl : rest = [] := by simpa using hlength
      obtain ⟨ha, -⟩ := List.cons.inj hsources
      have ha : a.source = "/t/a.latte" := ha
      have hcalled : (pure (.ok "A") : Check (Except CompileError Text)) a.asked =
          .ok a.answer a.answered := by
        have hcalled := turn.called
        rwa [ha] at hcalled
      simp [Attempt.KeepsProgress, (pure_eq_ok.1 hcalled).2]
  obtain ⟨hcalls, -, -, hcontext, -⟩ :=
    crash_context_exact "/out" crashingSources crashingCompiler "php" crashingWorld
  have hexact := hcalls before "/t/b.latte" asked hasked
  have hprogress : asked.progress = ⟨1, 3⟩ := by
    rw [hexact.progress hkeeps, hlength]
    rfl
  exact ⟨before, asked, hasked, hkeeps, hexact.context, hprogress,
    hprogress ▸ hexact.crash "boom" rfl, hcontext crashingWorld⟩

def countingCompiler : Compiler := ⟨fun _ => setProgress 7 7 >>= fun _ => pure (.ok "A")⟩

def boomCompiler : Compiler := ⟨fun _ => crash "boom"⟩

def crash? {α : Type} : EStateM.Result (Halt CheckError) World α → Option Crash
  | .error (.crashed c) _ => some c
  | _ => none

/-- After a compiler that sets the counters they tell nothing about the second source. And a crash
on a source whose name is no text is reported as one on another source. -/
theorem crash_context_inexact :
    (∃ before asked, Asked "/out" crashingSources countingCompiler "php" crashingWorld before
        "/t/b.latte" asked ∧ before.length = 1 ∧ asked.progress = ⟨8, 7⟩) ∧
    ∃ c c', crash? (run "/out" ["/t/\xff.latte"] boomCompiler "php" crashingWorld) = some c ∧
      crash? (run "/out" ["/t/\xef\xbf\xbd.latte"] boomCompiler "php" crashingWorld) = some c' ∧
      c.context.file = some "/t/\xff.latte" ∧ c'.context.file ≠ c.context.file ∧
      c.report = c'.report := by
  constructor
  · have hsteps : outcome? (fun _ asked => asked.progress) ((Check.ensureDirectory "/out" >>= fun _ =>
        compileAll "/out" countingCompiler "php" {} ["/t/a.latte"] >>= fun _ v =>
          prepare "/out" "php" "/t/b.latte" (v.enter (.file "/t/b.latte")))
        (opened crashingWorld crashingSources)) = some ⟨8, 7⟩ := by
      decide +kernel
    obtain ⟨target, asked, hsteps, hprogress⟩ := exists_of_outcome hsteps
    obtain ⟨before, hsources, hasked⟩ := asked_of_steps ["/t/c.latte"] hsteps
    exact ⟨before, asked, hasked, by simpa using congrArg List.length hsources, hprogress⟩
  · refine ⟨⟨some "boom", ⟨some .compile, some "/t/\xff.latte"⟩, ⟨0, 1⟩⟩,
      ⟨some "boom", ⟨some .compile, some "/t/\xef\xbf\xbd.latte"⟩, ⟨0, 1⟩⟩, ?_, ?_, rfl, ?_, ?_⟩
    · decide +kernel
    · decide +kernel
    · decide +kernel
    · decide +kernel

end Compilation

end TemplateCheck
