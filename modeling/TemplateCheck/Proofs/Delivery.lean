import TemplateCheck.Command.Check
import TemplateCheck.Proofs.Appearance
import TemplateCheck.Proofs.Computation

/-!
A sink that is offered pieces one after the other ends up as if it had been offered all of them at
once: it holds as much of the whole as it has room for, and it fails if that is not all. A check
offers its report to the output once it has one, and until then no step of it comes near the output.
-/
namespace TemplateCheck

namespace Text

theorem bytes_append (s t : Text) : bytes (s ++ t) = bytes s ++ bytes t := by
  simp only [bytes, String.toUTF8_eq_toByteArray, String.toByteArray_ofList, List.utf8Encode_append]

end Text

namespace Sink

variable {s : Sink} {a b : ByteArray}

theorem put_fitting (h : b.size ≤ s.room b.size) :
    s.put b = (.ok (), { s with held := s.held ++ b }) := by
  simp only [put, if_pos h]

theorem put_overfull (h : ¬b.size ≤ s.room b.size) :
    s.put b = (.error (.other "sink full"),
      { s with held := s.held ++ b.extract 0 (s.room b.size) }) := by
  simp only [put, if_neg h]

theorem put_empty : s.put .empty = (.ok (), s) := by
  simp [put]

theorem append_fits_iff (ha : a.size ≤ s.room a.size) : (a ++ b).size ≤ s.room (a ++ b).size ↔
    b.size ≤ ({ s with held := s.held ++ a } : Sink).room b.size := by
  cases hl : s.limit with
  | none => simp [room, hl]
  | some limit =>
    simp only [room, hl, ByteArray.size_append] at ha ⊢
    omega

theorem extract_of_size_le {n : Nat} (h : a.size ≤ n) : a.extract 0 n = a := by
  rw [← Nat.max_eq_left h, ByteArray.extract_zero_max_size]

theorem extract_append_of_fits (ha : a.size ≤ s.room a.size) :
    (a ++ b).extract 0 (s.room (a ++ b).size) =
      a ++ b.extract 0 (({ s with held := s.held ++ a } : Sink).room b.size) := by
  cases hl : s.limit with
  | none =>
    simp only [room, hl, ByteArray.size_append, ByteArray.extract_append, Nat.zero_sub]
    rw [extract_of_size_le (Nat.le_add_right ..), Nat.add_sub_cancel_left]
  | some limit =>
    simp only [room, hl] at ha
    simp only [room, hl, ByteArray.size_append, ByteArray.extract_append, Nat.zero_sub]
    rw [extract_of_size_le ha, Nat.sub_sub]

theorem append_overfull (ha : ¬a.size ≤ s.room a.size) :
    ¬(a ++ b).size ≤ s.room (a ++ b).size ∧
      (a ++ b).extract 0 (s.room (a ++ b).size) = a.extract 0 (s.room a.size) := by
  cases hl : s.limit with
  | none => simp [room, hl] at ha
  | some limit =>
    simp only [room, hl] at ha
    simp only [room, hl, ByteArray.size_append, ByteArray.extract_append, Nat.zero_sub]
    have hnone : limit - s.held.size - a.size = 0 := by omega
    refine ⟨by omega, ?_⟩
    rw [hnone, ByteArray.extract_same, ByteArray.append_empty]

theorem put_append : s.put (a ++ b) =
    match s.put a with
    | (.ok (), s') => s'.put b
    | (.error cause, s') => (.error cause, s') := by
  by_cases ha : a.size ≤ s.room a.size
  · rw [put_fitting ha]
    by_cases hb : b.size ≤ ({ s with held := s.held ++ a } : Sink).room b.size
    · rw [put_fitting ((append_fits_iff ha).2 hb)]
      simp only [put_fitting hb, ByteArray.append_assoc]
    · rw [put_overfull (mt (append_fits_iff ha).1 hb), extract_append_of_fits ha]
      simp only [put_overfull hb, ByteArray.append_assoc]
  · obtain ⟨hab, htaken⟩ := append_overfull (b := b) ha
    rw [put_overfull hab, put_overfull ha, htaken]

theorem putAll_eq_put (pieces : List Text) : s.putAll pieces = s.put (Text.bytes pieces.flatten) := by
  induction pieces generalizing s with
  | nil => exact put_empty.symm
  | cons piece rest ih =>
    rw [List.flatten_cons, Text.bytes_append, put_append, putAll]
    cases s.put (Text.bytes piece) with
    | mk result s' =>
      cases result with
      | ok => exact ih
      | error cause => rfl

/-- An empty sink that accepts `k` bytes takes the first `k` of what is delivered. All is well if that
is all of it and the sink can be flushed. -/
theorem deliver_to_empty (limit : Option Nat) (flushFails : Bool) (pieces : List Text) :
    let full := Text.bytes pieces.flatten
    let k := limit.getD full.size
    ∃ s' : Sink, s'.held = full.extract 0 (min k full.size) ∧
      ((full.size ≤ k ∧ flushFails = false) ∧
          ({ limit, flushFails } : Sink).deliver pieces = (.ok (), s') ∨
        ¬(full.size ≤ k ∧ flushFails = false) ∧
          ∃ cause, ({ limit, flushFails } : Sink).deliver pieces = (.error cause, s')) := by
  intro full k
  have hroom : ({ limit, flushFails } : Sink).room full.size = k := by
    cases limit <;> rfl
  rw [deliver, putAll_eq_put]
  by_cases hfits : full.size ≤ k
  · rw [put_fitting (hroom ▸ hfits), Nat.min_eq_right hfits, ByteArray.extract_zero_size]
    refine ⟨⟨.empty ++ full, limit, flushFails⟩, ByteArray.empty_append, ?_⟩
    cases flushFails with
    | false => exact .inl ⟨⟨hfits, rfl⟩, rfl⟩
    | true => exact .inr ⟨by simp, _, rfl⟩
  · rw [put_overfull (hroom ▸ hfits), hroom, Nat.min_eq_left (Nat.le_of_not_le hfits)]
    exact ⟨⟨.empty ++ full.extract 0 k, limit, flushFails⟩, ByteArray.empty_append,
      .inr ⟨fun h => hfits h.1, _, rfl⟩⟩

end Sink

/-- A part of the world that no single step of a check changes, and that is back in place when a guard
is released. -/
structure World.Aside {β : Type} (view : World → β) : Prop where
  disk : ∀ w disk, view { w with disk } = view w
  progress : ∀ w progress, view { w with progress } = view w
  log : ∀ w log, view { w with log } = view w
  calls : ∀ w calls, view { w with calls } = view w
  processes : ∀ w processes, view { w with processes } = view w
  release : ∀ (w w' : World) (setting : Setting),
    view w' = view { w with context := w.context.apply setting } →
      view { w' with context := w.context } = view w

theorem World.aside_output : World.Aside World.output where
  disk _ _ := rfl
  progress _ _ := rfl
  log _ _ := rfl
  calls _ _ := rfl
  processes _ _ := rfl
  release _ _ _ h := h

namespace CheckM

variable {ε δ α β γ : Type} {view : World → γ}

/-- The world after a computation, whichever way it ends. -/
def worldAfter (x : CheckM ε α) (w : World) : World :=
  match x w with
  | .ok _ w' => w'
  | .error _ w' => w'

theorem worldAfter_of_ok {x : CheckM ε α} {a : α} {w w' : World} (h : x w = .ok a w') :
    x.worldAfter w = w' := by
  rw [worldAfter, h]

theorem worldAfter_of_error {x : CheckM ε α} {halt : Halt ε} {w w' : World}
    (h : x w = .error halt w') : x.worldAfter w = w' := by
  rw [worldAfter, h]

/-- A computation that leaves a part of the world as it is, whichever way it ends. -/
def Leaves (view : World → γ) (x : CheckM ε α) : Prop := ∀ w, view (x.worldAfter w) = view w

namespace Leaves

theorem bind {x : CheckM ε α} {f : α → CheckM ε β} (hx : x.Leaves view)
    (hf : ∀ a, (f a).Leaves view) : (x >>= f).Leaves view := by
  intro w
  cases h : x w with
  | ok a w₁ =>
    have hbind : (x >>= f).worldAfter w = (f a).worldAfter w₁ := by
      rw [worldAfter, bind_of_ok h, ← worldAfter]
    rw [hbind, hf a w₁, ← hx w, worldAfter_of_ok h]
  | error halt w₁ =>
    rw [worldAfter_of_error (bind_of_error h), ← hx w, worldAfter_of_error h]

theorem mapError {f : ε → δ} {x : CheckM ε α} (hx : x.Leaves view) :
    (mapError f x).Leaves view := by
  intro w
  have hafter : (CheckM.mapError f x).worldAfter w = x.worldAfter w := by
    unfold worldAfter CheckM.mapError
    cases x w with
    | ok a w' => rfl
    | error halt w' => cases halt <;> rfl
  rw [hafter, hx w]

theorem pure (a : α) : (Pure.pure a : CheckM ε α).Leaves view := fun _ => rfl

theorem fail (e : ε) : (CheckM.fail e : CheckM ε α).Leaves view := fun _ => rfl

theorem crash (payload : Text) : (CheckM.crash payload : CheckM ε α).Leaves view := fun _ => rfl

theorem readDisk : (CheckM.readDisk : CheckM ε Disk).Leaves view := fun _ => rfl

theorem ofExcept (f : δ → ε) (x : Except δ α) : (CheckM.ofExcept f x).Leaves view := by
  cases x with
  | ok a => exact .pure a
  | error e => exact .fail (f e)

theorem modify {f : World → World} (h : ∀ w, view (f w) = view w) :
    (modify f : CheckM ε Unit).Leaves view := h

theorem readText (p : Path) : (Check.readText p).Leaves view := by
  refine .bind .readDisk fun d => ?_
  cases d.readText p with
  | ok text => exact .pure text
  | error fault => exact .fail _

theorem canonicalize (p : Path) : (Check.canonicalize p).Leaves view := by
  refine .bind .readDisk fun d => ?_
  cases d.canonicalize p with
  | ok canonical => exact .pure canonical
  | error fault => exact .fail _

variable (h : World.Aside view)
include h

theorem note {level : Log.Level} {area : Log.Area} {message : Text} :
    (CheckM.note level area message : CheckM ε Unit).Leaves view := fun w => h.log w _

theorem note_if {c : Prop} [Decidable c] {level : Log.Level} {area : Log.Area} {message : Text}
    {next : Unit → CheckM ε α} (hnext : (next ()).Leaves view) :
    (if c then CheckM.note level area message >>= next else next ()).Leaves view := by
  split
  · exact .bind (.note h) fun _ => hnext
  · exact hnext

theorem record {request : Request} : (CheckM.record request : CheckM ε Unit).Leaves view :=
  fun w => h.calls w _

theorem setProgress {processed total : UInt64} :
    (CheckM.setProgress processed total : CheckM ε Unit).Leaves view := fun w => h.progress w _

theorem advance : (CheckM.advance : CheckM ε Unit).Leaves view := fun w => h.progress w _

theorem launch {programs : Programs} {file : Path} {program : Text} {args : List Text} :
    (CheckM.launch programs file program args : CheckM ε (Except Fault Exit)).Leaves view :=
  fun w => h.processes w _

theorem within {setting : Setting} {x : CheckM ε α} (hx : x.Leaves view) :
    (within setting x).Leaves view := by
  intro w
  have hafter : (CheckM.within setting x).worldAfter w =
      { x.worldAfter { w with context := w.context.apply setting } with context := w.context } := by
    unfold worldAfter CheckM.within
    simp only [Context.enter]
    cases x { w with context := w.context.apply setting } <;> rfl
  rw [hafter]
  exact h.release w _ setting (hx _)

theorem writeText (p : Path) (text : Text) : (Check.writeText p text).Leaves view := by
  refine .bind .readDisk fun d => ?_
  cases d.write p (Text.bytes text) with
  | ok disk => exact .modify fun w => h.disk w disk
  | error fault => exact .fail _

theorem ensureDirectory (p : Path) : (Check.ensureDirectory p).Leaves view := by
  refine .bind .readDisk fun d => ?_
  cases d.pathExists p with
  | true => exact .pure ()
  | false =>
    cases d.makeDirectories p with
    | mk result disk =>
      refine .bind (.modify fun w => h.disk w disk) fun _ => ?_
      cases result with
      | ok => exact .pure ()
      | error fault => exact .fail _

end Leaves

end CheckM

section Stages

open CheckM

variable {γ : Type} {view : World → γ} (h : World.Aside view)

def Compiler.Leaves (view : World → γ) (c : Compiler) : Prop := ∀ path, (c.compile path).Leaves view

structure Linter.Leaves (view : World → γ) (l : Linter) : Prop where
  files : ∀ root, (l.files root).Leaves view
  lint : ∀ files, (l.lint files).Leaves view

include h

theorem Discovery.go_leaves (dirs found skipped : List Path) :
    (Discovery.resolve.go dirs found skipped).Leaves view := by
  induction dirs generalizing found skipped with
  | nil => exact .pure _
  | cons dir rest ih =>
    rw [Discovery.resolve.go]
    refine .bind .readDisk fun d => ?_
    cases Discovery.resolveOne d dir with
    | directory path => exact ih _ _
    | skipped reason => exact .bind (.note h) fun _ => ih _ _

theorem Discovery.run_leaves (dirs : List Path) (extension : Text) (exclude : List Text) :
    (Discovery.run dirs extension exclude).Leaves view := by
  refine .within h (.bind (Discovery.go_leaves h dirs [] []) fun _ => ?_)
  refine .bind .readDisk fun _ => .bind (.ofExcept _ _) fun _ => ?_
  exact .bind (.note h) fun _ => .pure _

namespace Compilation

theorem makeRoom_leaves (target : Path) : (makeRoom target).Leaves view := by
  unfold makeRoom
  cases target.parent with
  | none => exact .pure ()
  | some directory => exact .ensureDirectory h directory

theorem prepare_leaves (root : Path) (extension : Text) (source : Path) :
    (prepare root extension source).Leaves view := by
  have hlocate : (Artifact.locate root source extension : Check Path).Leaves view := by
    unfold Artifact.locate
    split
    · exact .pure _
    · exact .crash _
  refine .bind hlocate fun target => .bind (makeRoom_leaves h target) fun _ => ?_
  exact .bind (.note h) fun _ => .bind (.record h) fun _ => .pure target

theorem settle_leaves (done : Compilation) (source target : Path)
    (answer : Except CompileError Text) : (settle done source target answer).Leaves view := by
  cases answer with
  | ok code =>
    refine .bind (.writeText h target code) fun _ => .bind (.canonicalize target) fun _ => ?_
    exact .bind (.advance h) fun _ => .pure _
  | error error =>
    refine .bind (.note h) fun _ => .bind (.readText error.file) fun _ => ?_
    exact .bind (.advance h) fun _ => .pure _

variable {compiler : Compiler} (hc : compiler.Leaves view)
include hc

theorem compileOne_leaves (root : Path) (extension : Text) (done : Compilation) (source : Path) :
    (compileOne root compiler extension done source).Leaves view := by
  refine .within h (.bind (prepare_leaves h root extension source) fun target => ?_)
  exact .bind (hc source) fun answer => settle_leaves h done source target answer

theorem compileAll_leaves (root : Path) (extension : Text) (done : Compilation)
    (sources : List Path) : (compileAll root compiler extension done sources).Leaves view := by
  induction sources generalizing done with
  | nil => exact .pure done
  | cons source rest ih => exact .bind (compileOne_leaves h hc root extension done source) ih

theorem run_leaves (root : Path) (sources : List Path) (extension : Text) :
    (run root sources compiler extension).Leaves view := by
  refine .within h (.bind (.setProgress h) fun _ => .bind (.ensureDirectory h root) fun _ => ?_)
  exact compileAll_leaves h hc root extension {} sources

end Compilation

namespace Linting

theorem recordFinding_leaves (sourceMap : SourceMap) (finding : Finding) :
    (recordFinding sourceMap finding).Leaves view := by
  refine .within h (.bind .readDisk fun d => .note_if h ?_)
  exact .bind (.readText finding.file) fun _ => .pure _

theorem recordAll_leaves (sourceMap : SourceMap) (findings : List Finding) :
    (recordAll sourceMap findings).Leaves view := by
  induction findings with
  | nil => exact .pure []
  | cons finding rest ih =>
    exact .bind (recordFinding_leaves h sourceMap finding) fun _ => .bind ih fun _ => .pure _

theorem run_leaves {linter : Linter} (hl : linter.Leaves view) (root : Path)
    (sourceMap : SourceMap) : (run root linter sourceMap).Leaves view := by
  refine .within h (.bind (.record h) fun _ => .bind (hl.files root) fun files => ?_)
  refine .bind (.note h) fun _ => .bind (.record h) fun _ => .bind (hl.lint files) fun findings => ?_
  exact .bind (recordAll_leaves h sourceMap findings) fun _ => .pure _

end Linting

theorem Pipeline.run_leaves {compiler : Compiler} {linter : Linter} (hc : compiler.Leaves view)
    (hl : linter.Leaves view) (dirs : List Path) (root : Path) (options : Options) :
    (Pipeline.run dirs root compiler linter options).Leaves view := by
  refine .bind (Discovery.run_leaves h dirs _ _) fun discovery => .note_if h ?_
  refine .bind (.ensureDirectory h root) fun _ => .bind (.canonicalize root) fun root => ?_
  refine .bind (Compilation.run_leaves h hc root _ _) fun outcome => .bind (.note h) fun _ => ?_
  exact .bind (Linting.run_leaves h hl root _) fun _ => .pure _

namespace Backend

variable {programs : Programs} {command : ToolCommand} {pattern : FailurePattern}

theorem tool_leaves (file : Path) : (command.run programs file).Leaves view := by
  refine .bind (.note h) fun _ => .bind (.launch h) fun outcome => ?_
  cases outcome with
  | ok exit => exact .pure _
  | error fault => exact .fail _

theorem compiler_leaves : (compiler programs command pattern).Leaves view := by
  intro path
  refine .bind (tool_leaves h path) fun output => ?_
  split
  · exact .pure _
  · exact .bind .readDisk fun _ => .pure _

theorem lintOne_leaves (file : Path) : (lintOne programs command pattern file).Leaves view := by
  refine .bind (tool_leaves h file) fun output => ?_
  split <;> exact .pure _

theorem lintAll_leaves (files : List Path) :
    (lintAll programs command pattern files).Leaves view := by
  induction files with
  | nil => exact .pure []
  | cons file rest ih =>
    refine .bind (lintOne_leaves h file) fun found => ?_
    cases found with
    | none => exact ih
    | some finding => exact .bind (.note h) fun _ => .bind ih fun _ => .pure _

theorem linter_leaves (extension : Text) : (linter programs command pattern extension).Leaves view :=
  ⟨fun _ => .bind .readDisk fun _ => .ofExcept _ _, fun files => lintAll_leaves h files⟩

end Backend

theorem Bootstrap.resolve_leaves (given : Option Path) : (Bootstrap.resolve given).Leaves view := by
  cases given with
  | none => exact .bind (.note h) fun _ => .ofExcept _ _
  | some path =>
    refine .bind .readDisk fun d => ?_
    cases d.readText path with
    | error fault => exact .fail _
    | ok text =>
      cases hconfig : BootstrapConfig.parse? text with
      | none =>
        simp only [hconfig]
        exact .fail _
      | some config =>
        simp only [hconfig]
        exact .bind (.note h) fun _ => .ofExcept _ _

end Stages

namespace Command

open CheckM

/-- A check up to its report. -/
def gather (programs : Programs) (r : CheckRequest) : CheckM Failure Report :=
  if r.dirs.isEmpty then fail .noDirectories
  else do
    let bootstrap ← mapError .noCompiler (Bootstrap.resolve r.bootstrap)
    mapError .aborted
      (Pipeline.run r.dirs r.compiledDir (compilerOf programs bootstrap)
        (linterOf programs bootstrap) (optionsOf bootstrap))

/-- What is left of a check once there is a report. -/
def publish (r : CheckRequest) (report : Report) : CheckM Failure Nat := do
  note .info .check (Text.decimal (report.countOf .compile) ++ " compile error(s), " ++
    Text.decimal (report.countOf .lint) ++ " lint error(s)")
  within (.phase .report) do
    let pieces ← ofExcept .plain (Rendering.pieces r.format r.formatter r.verbosity report)
    mapError .plain (deliver pieces)
    return report.count

theorem check_eq_gather (programs : Programs) (r : CheckRequest) :
    check programs r = gather programs r >>= publish r := by
  unfold check gather
  by_cases hd : r.dirs.isEmpty
  · simp only [if_pos hd]
    rfl
  · simp only [if_neg hd, bind_assoc]
    rfl

theorem gather_leaves (programs : Programs) (r : CheckRequest) :
    (gather programs r).Leaves World.output := by
  have h := World.aside_output
  unfold gather
  split
  · exact .fail _
  · refine .bind (.mapError (Bootstrap.resolve_leaves h _)) fun bootstrap => .mapError ?_
    exact Pipeline.run_leaves h (Backend.compiler_leaves h) (Backend.linter_leaves h _) _ _ _

theorem eq_of_mapError {ε α : Type} {f : ε → Failure} {x : CheckM ε α} {e : Failure} {w w' : World}
    (h : mapError f x w = .error (.failed e) w') : ∃ e', e = f e' := by
  unfold mapError at h
  split at h
  next => cases h
  next e' _ _ =>
    cases h
    exact ⟨e', rfl⟩
  next => cases h

theorem gather_ne_plain {programs : Programs} {r : CheckRequest} {e : CheckError} {w w' : World} :
    gather programs r w ≠ .error (.failed (.plain e)) w' := by
  intro h
  unfold gather at h
  split at h
  next => cases h
  next =>
    cases hb : mapError Failure.noCompiler (Bootstrap.resolve r.bootstrap) w with
    | error halt w₁ =>
      rw [bind_of_error hb] at h
      cases h
      obtain ⟨_, h⟩ := eq_of_mapError hb
      cases h
    | ok bootstrap w₁ =>
      rw [bind_of_ok hb] at h
      obtain ⟨_, h⟩ := eq_of_mapError h
      cases h

theorem deliver_run (pieces : List Text) (w : World) : deliver pieces w =
    match w.output.deliver pieces with
    | (.ok (), output) => .ok () { w with output }
    | (.error cause, output) => .error (.failed (.output cause)) { w with output } := by
  rw [deliver, get_bind]
  cases w.output.deliver pieces with
  | mk result output => cases result <;> rfl

section Publish

variable {r : CheckRequest} {report : Report} {w : World}

theorem publish_of_pieces {written : List Text}
    (h : Rendering.pieces r.format r.formatter r.verbosity report = .ok written) :
    ∃ log, publish r report w = match w.output.deliver written with
      | (.ok (), output) => .ok report.count { w with log, output }
      | (.error cause, output) =>
        .error (.failed (.plain (.output cause))) { w with log, output } := by
  have hnote (message : Text) : (note .info .check message : CheckM Failure Unit) w =
      .ok () { w with log := w.log.push ⟨.info, .check, message⟩ } := rfl
  have hpieces : CheckM.ofExcept Failure.plain (.ok written) = pure written := rfl
  rw [publish, bind_of_ok (hnote _), h, hpieces, pure_bind]
  simp only [within, Context.enter, mapError, deliver_run, bind, EStateM.bind]
  cases w.output.deliver written with
  | mk result output => cases result <;> exact ⟨_, rfl⟩

theorem publish_of_refusal {e : CheckError}
    (h : Rendering.pieces r.format r.formatter r.verbosity report = .error e) :
    ∃ log, publish r report w = .error (.failed (.plain e)) { w with log } := by
  have hnote (message : Text) : (note .info .check message : CheckM Failure Unit) w =
      .ok () { w with log := w.log.push ⟨.info, .check, message⟩ } := rfl
  rw [publish, bind_of_ok (hnote _), h]
  exact ⟨_, rfl⟩

/-- How a check ends that keeps its report back: it has no form in JSON. -/
def Withheld (r : CheckRequest) (report : Report) (ended : EStateM.Result (Halt Failure) World Nat) :
    Prop :=
  r.format = .json ∧ ¬report.Named ∧ ∃ w', w'.output.held = .empty ∧
    ended = .error (.failed (.plain (.json "path contains invalid UTF-8 characters"))) w'

/-- How a check ends that writes its report to an empty output: with the first bytes of it, as many as
the output accepts, and well exactly if these are all and the output can be flushed. -/
def Delivered (r : CheckRequest) (report : Report) (limit : Option Nat) (flushFails : Bool)
    (ended : EStateM.Result (Halt Failure) World Nat) : Prop :=
  ∃ full : Text, (∀ t, Rendering.Appears r.format r.formatter r.verbosity report t ↔ t = full) ∧
    let bytes := Text.bytes full
    let k := limit.getD bytes.size
    ∃ w', w'.output.held = bytes.extract 0 (min k bytes.size) ∧
      ((bytes.size ≤ k ∧ flushFails = false) ∧ ended = .ok report.count w' ∨
        ¬(bytes.size ≤ k ∧ flushFails = false) ∧
          ∃ cause, ended = .error (.failed (.plain (.output cause))) w')

theorem publish_to_empty {limit : Option Nat} {flushFails : Bool}
    (hw : w.output = { limit, flushFails }) :
    Withheld r report (publish r report w) ∨
      Delivered r report limit flushFails (publish r report w) := by
  cases h : Rendering.pieces r.format r.formatter r.verbosity report with
  | error e =>
    obtain ⟨hformat, hnamed, rfl⟩ := Rendering.of_pieces_eq_error h
    obtain ⟨log, hrun⟩ := publish_of_refusal (w := w) h
    exact .inl ⟨hformat, hnamed, _, by rw [hw], hrun⟩
  | ok written =>
    right
    refine ⟨written.flatten, Rendering.appears_iff_of_ok h, ?_⟩
    intro bytes k
    obtain ⟨log, hrun⟩ := publish_of_pieces (w := w) h
    obtain ⟨output, hheld, ⟨hall, hd⟩ | ⟨hall, cause, hd⟩⟩ :=
      Sink.deliver_to_empty limit flushFails written
    all_goals
      rw [hw, hd] at hrun
      refine ⟨{ w with log, output }, hheld, ?_⟩
    · exact .inl ⟨hall, hrun⟩
    · exact .inr ⟨hall, cause, hrun⟩

end Publish

/-- The output gets nothing before there is a report, and then as much of it as it accepts, from the
start on, unless the report has no form in JSON. -/
theorem output_is_start_of_report (programs : Programs) (r : CheckRequest) (w : World)
    (limit : Option Nat) (flushFails : Bool) :
    let start : World := { w with output := { limit, flushFails } }
    match gather programs r start with
    | .error halt w' =>
      check programs r start = .error halt w' ∧ w'.output.held = .empty ∧
        ∀ error, halt ≠ .failed (.plain error)
    | .ok report _ =>
      Withheld r report (check programs r start) ∨
        Delivered r report limit flushFails (check programs r start) := by
  intro start
  have hleaves := gather_leaves programs r start
  rw [check_eq_gather]
  cases hg : gather programs r start with
  | error halt w' =>
    rw [worldAfter_of_error hg] at hleaves
    refine ⟨bind_of_error hg, by rw [hleaves], ?_⟩
    rintro error rfl
    exact gather_ne_plain hg
  | ok report w' =>
    rw [worldAfter_of_ok hg] at hleaves
    rw [bind_of_ok hg]
    exact publish_to_empty hleaves

def unnamedDisk : Disk where
  entries := [(["t"], .directory), (["t", "\xff.latte"], .file (Text.bytes "A"))]
  workdir := []
  workdir_names := Path.allNames_nil

def failingPrograms : Programs := ⟨fun _ _ _ _ => .ok ⟨.exited 1, [], []⟩⟩

def unnamedRequest : CheckRequest := ⟨["/t"], none, "/out", .json, .normal, ⟨false⟩⟩

/-- There is a report, and room for it, but nothing is written and the failure is not about the
output. -/
theorem unnamed_report_is_withheld :
    (∃ report w', gather failingPrograms unnamedRequest { disk := unnamedDisk } = .ok report w' ∧
      report.count = 1) ∧
    ∃ w', check failingPrograms unnamedRequest { disk := unnamedDisk } =
        .error (.failed (.plain (.json "path contains invalid UTF-8 characters"))) w' ∧
      w'.output.held = .empty := by
  have hreport : outcome? (fun report _ => (report.count, Rendering.Json.isSerializable report))
      (gather failingPrograms unnamedRequest { disk := unnamedDisk }) = some (1, false) := by
    decide +kernel
  obtain ⟨report, w₁, hg, hreport⟩ := exists_of_outcome hreport
  obtain ⟨hcount, hunnamed⟩ := Prod.mk.inj hreport
  have hleaves := gather_leaves failingPrograms unnamedRequest { disk := unnamedDisk }
  rw [worldAfter_of_ok hg] at hleaves
  have hpieces : Rendering.pieces unnamedRequest.format unnamedRequest.formatter
      unnamedRequest.verbosity report = .error (.json Rendering.Json.refusal) := by
    simp only [unnamedRequest, Rendering.pieces, hunnamed, Bool.false_eq_true, if_false]
  obtain ⟨log, hpublish⟩ := publish_of_refusal (w := w₁) hpieces
  refine ⟨⟨report, w₁, hg, hcount⟩, { w₁ with log }, ?_, by rw [hleaves]⟩
  rw [check_eq_gather, bind_of_ok hg]
  exact hpublish

end Command

end TemplateCheck
