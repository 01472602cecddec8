import TemplateCheck.Proofs.Writing
import TemplateCheck.Scripted

/-!
A computation is taken apart at its binds. For each operation it is said when it succeeds and in
which world it does, so no proof about a stage unfolds the monad.
-/
namespace TemplateCheck

namespace CheckM

variable {ε δ α β : Type} {w w' : World}

theorem bind_of_ok {x : CheckM ε α} {f : α → CheckM ε β} {a : α} {w₁ : World}
    (h : x w = .ok a w₁) : (x >>= f) w = f a w₁ := by
  simp only [bind, EStateM.bind, h]

theorem bind_of_error {x : CheckM ε α} {f : α → CheckM ε β} {halt : Halt ε} {w₁ : World}
    (h : x w = .error halt w₁) : (x >>= f) w = .error halt w₁ := by
  simp only [bind, EStateM.bind, h]

theorem bind_eq_ok {x : CheckM ε α} {f : α → CheckM ε β} {b : β} :
    (x >>= f) w = .ok b w' ↔ ∃ a w₁, x w = .ok a w₁ ∧ f a w₁ = .ok b w' := by
  cases h : x w with
  | ok a w₁ => simp [bind_of_ok h]
  | error halt w₁ => simp [bind_of_error h]

theorem pure_eq_ok {a b : α} : (pure a : CheckM ε α) w = .ok b w' ↔ b = a ∧ w' = w := by
  simp [pure, EStateM.pure, eq_comm]

theorem within_eq_ok {setting : Setting} {action : CheckM ε α} {a : α} :
    within setting action w = .ok a w' ↔
      ∃ w₁, action { w with context := w.context.apply setting } = .ok a w₁ ∧
        w' = { w₁ with context := w.context } := by
  unfold within
  simp only [Context.enter]
  cases action { w with context := w.context.apply setting } with
  | ok b w₁ => simp [World.release, Context.release, eq_comm]
  | error => simp

theorem mapError_eq_ok {f : ε → δ} {action : CheckM ε α} {a : α} :
    mapError f action w = .ok a w' ↔ action w = .ok a w' := by
  unfold mapError
  split <;> simp_all

theorem fail_ne_ok {e : ε} {a : α} : (fail e : CheckM ε α) w ≠ .ok a w' := by
  show (.error (.failed e) w : EStateM.Result (Halt ε) World α) ≠ .ok a w'
  simp

theorem crash_ne_ok {payload : Text} {a : α} : (crash payload : CheckM ε α) w ≠ .ok a w' := by
  show (.error (.crashed ⟨some payload, w.context, w.progress⟩) w :
    EStateM.Result (Halt ε) World α) ≠ .ok a w'
  simp

theorem ofExcept_eq_ok {f : δ → ε} {x : Except δ α} {a : α} :
    ofExcept f x w = .ok a w' ↔ x = .ok a ∧ w' = w := by
  cases x with
  | ok b => simp [ofExcept, pure_eq_ok, eq_comm]
  | error e => simp [ofExcept, fail_ne_ok]

theorem modify_eq_ok {f : World → World} {u : Unit} :
    (modify f : CheckM ε Unit) w = .ok u w' ↔ w' = f w := by
  show (.ok () (f w) : EStateM.Result (Halt ε) World Unit) = .ok u w' ↔ w' = f w
  simp [eq_comm]

theorem get_bind (f : World → CheckM ε α) : (get >>= f) w = f w w := rfl

theorem readDisk_bind (f : Disk → CheckM ε α) : (readDisk >>= f) w = f w.disk w := rfl

/-- Something about the value and the world that a computation ends with, if it succeeds. -/
def outcome? (f : α → World → β) : EStateM.Result (Halt ε) World α → Option β
  | .ok a w => some (f a w)
  | .error _ _ => none

theorem exists_of_outcome {f : α → World → β} {x : EStateM.Result (Halt ε) World α} {b : β}
    (h : outcome? f x = some b) : ∃ a w, x = .ok a w ∧ f a w = b := by
  cases x with
  | ok a w => exact ⟨a, w, rfl, Option.some.inj h⟩
  | error halt w => simp [outcome?] at h

theorem ok_of_toOption {x : Except ε α} {a : α} (h : x.toOption = some a) : x = .ok a := by
  cases x with
  | ok a' => rw [Option.some.inj h]
  | error e => cases h

def failure? : EStateM.Result (Halt ε) World α → Option ε
  | .error (.failed e) _ => some e
  | _ => none

theorem exists_of_failure {x : EStateM.Result (Halt ε) World α} {e : ε}
    (h : failure? x = some e) : ∃ w, x = .error (.failed e) w := by
  cases x with
  | ok a w => simp [failure?] at h
  | error halt w =>
    cases halt with
    | failed e' => exact ⟨w, by rw [Option.some.inj h]⟩
    | crashed c => simp [failure?] at h

/-- A step that neither touches the disk nor starts a program. -/
structure Quiet (w w' : World) : Prop where
  disk : w'.disk = w.disk
  processes : w'.processes = w.processes

theorem Quiet.refl (w : World) : Quiet w w := ⟨rfl, rfl⟩

theorem Quiet.trans {w₁ w₂ w₃ : World} (h : Quiet w₁ w₂) (k : Quiet w₂ w₃) : Quiet w₁ w₃ :=
  ⟨k.disk.trans h.disk, k.processes.trans h.processes⟩

theorem note_eq_ok {level : Log.Level} {area : Log.Area} {message : Text} {u : Unit}
    (h : (note level area message : CheckM ε Unit) w = .ok u w') : Quiet w w' := by
  cases h
  exact ⟨rfl, rfl⟩

theorem note_if_eq_ok {c : Prop} [Decidable c] {level : Log.Level} {area : Log.Area} {message : Text}
    {next : Unit → CheckM ε α} {a : α}
    (h : (if c then note level area message >>= next else next ()) w = .ok a w') :
    ∃ w₁, Quiet w w₁ ∧ next () w₁ = .ok a w' := by
  by_cases hc : c
  · rw [if_pos hc] at h
    obtain ⟨_, w₁, hn, h⟩ := bind_eq_ok.1 h
    exact ⟨w₁, note_eq_ok hn, h⟩
  · rw [if_neg hc] at h
    exact ⟨w, .refl w, h⟩

theorem record_eq_ok {request : Request} {u : Unit}
    (h : (record request : CheckM ε Unit) w = .ok u w') : Quiet w w' := by
  cases h
  exact ⟨rfl, rfl⟩

theorem advance_eq_ok {u : Unit} (h : (advance : CheckM ε Unit) w = .ok u w') : Quiet w w' := by
  cases h
  exact ⟨rfl, rfl⟩

/-! Quiet steps always succeed, so a computation that contains them can be run forward. -/

theorem note_ok (level : Log.Level) (area : Log.Area) (message : Text) (w : World) :
    ∃ w₁, (note level area message : CheckM ε Unit) w = .ok () w₁ ∧ Quiet w w₁ :=
  ⟨_, rfl, rfl, rfl⟩

theorem record_ok (request : Request) (w : World) :
    ∃ w₁, (record request : CheckM ε Unit) w = .ok () w₁ ∧ Quiet w w₁ :=
  ⟨_, rfl, rfl, rfl⟩

theorem advance_ok (w : World) : ∃ w₁, (advance : CheckM ε Unit) w = .ok () w₁ ∧ Quiet w w₁ :=
  ⟨_, rfl, rfl, rfl⟩

theorem note_if_ok {c : Prop} [Decidable c] {level : Log.Level} {area : Log.Area} {message : Text}
    {next : Unit → CheckM ε α} {a : α} {P : World → Prop}
    (h : ∀ v : World, v.disk = w.disk → ∃ w₁, next () v = .ok a w₁ ∧ P w₁) :
    ∃ w₁, (if c then note level area message >>= next else next ()) w = .ok a w₁ ∧ P w₁ := by
  split
  · exact h { w with log := w.log.push ⟨level, area, message⟩ } rfl
  · exact h w rfl

theorem within_ok {setting : Setting} {action : CheckM ε α} {a : α} {w₁ : World}
    (h : action { w with context := w.context.apply setting } = .ok a w₁) :
    within setting action w = .ok a { w₁ with context := w.context } :=
  within_eq_ok.2 ⟨w₁, h, rfl⟩

end CheckM

namespace Check

open CheckM

variable {p : Path} {w w' : World}

theorem readText_eq_ok {text : Text} :
    readText p w = .ok text w' ↔ w.disk.readText p = .ok text ∧ w' = w := by
  rw [readText, readDisk_bind]
  cases w.disk.readText p with
  | ok found => simp [pure_eq_ok, eq_comm]
  | error fault => simp [fail_ne_ok]

theorem canonicalize_eq_ok {canonical : Path} :
    canonicalize p w = .ok canonical w' ↔ w.disk.canonicalize p = .ok canonical ∧ w' = w := by
  rw [canonicalize, readDisk_bind]
  cases w.disk.canonicalize p with
  | ok found => simp [pure_eq_ok, eq_comm]
  | error fault => simp [fail_ne_ok]

theorem writeText_eq_ok {text : Text} {u : Unit} : writeText p text w = .ok u w' ↔
    ∃ disk, w.disk.write p (Text.bytes text) = .ok disk ∧ w' = { w with disk } := by
  rw [writeText, readDisk_bind]
  cases w.disk.write p (Text.bytes text) with
  | ok disk => simp [modify_eq_ok]
  | error fault => simp [fail_ne_ok]

theorem ensureDirectory_eq_ok {u : Unit} : ensureDirectory p w = .ok u w' ↔
    (w.disk.pathExists p ∧ w' = w) ∨
      ∃ disk, w.disk.pathExists p = false ∧ w.disk.makeDirectories p = (.ok (), disk) ∧
        w' = { w with disk } := by
  rw [ensureDirectory, readDisk_bind]
  cases he : w.disk.pathExists p with
  | true => simp [pure_eq_ok]
  | false =>
    cases hm : w.disk.makeDirectories p with
    | mk result disk =>
      cases result with
      | ok => simp [modify_eq_ok]
      | error fault => simp [bind_eq_ok, fail_ne_ok]

theorem ensureDirectory_of_exists (h : w.disk.pathExists p) : ensureDirectory p w = .ok () w :=
  ensureDirectory_eq_ok.2 (.inl ⟨h, rfl⟩)

theorem ensureDirectory_of_empty (h : p.text = []) : ensureDirectory p w = .ok () w := by
  obtain rfl : p = ⟨[]⟩ := congrArg Path.mk h
  refine ensureDirectory_eq_ok.2 (.inr ⟨w.disk, ?_, rfl, rfl⟩)
  simp [Disk.pathExists, Disk.stat, Disk.resolve, Disk.spellingFault]

theorem ensureDirectory_of_disk {v : World} {u : Unit} (h : ensureDirectory p w = .ok u w')
    (hd : v.disk = w.disk) : ensureDirectory p v = .ok () { v with disk := w'.disk } := by
  rw [ensureDirectory_eq_ok] at h ⊢
  rcases h with ⟨he, rfl⟩ | ⟨disk, he, hm, rfl⟩
  · exact .inl ⟨hd ▸ he, by rw [← hd]⟩
  · exact .inr ⟨disk, hd ▸ he, hd ▸ hm, rfl⟩

theorem ensureDirectory_adds {u : Unit} (h : ensureDirectory p w = .ok u w') :
    Disk.Adds w.disk w'.disk ∧ w'.processes = w.processes := by
  rcases ensureDirectory_eq_ok.1 h with ⟨-, rfl⟩ | ⟨disk, -, hm, rfl⟩
  · exact ⟨.refl _, rfl⟩
  · have hg := Disk.makeLineage_adds p.lineage w.disk
    rw [← Disk.makeDirectories, hm] at hg
    exact ⟨hg, rfl⟩

/-- A computation that ends well, or fails at a path with a fault of a kind. -/
inductive Ends {α : Type} (F : Fault → Prop) (Q : α → World → Prop) :
    EStateM.Result (Halt CheckError) World α → Prop where
  | well {a : α} {w : World} (h : Q a w) : Ends F Q (.ok a w)
  | badly {message : Text} {path : Path} {fault : Fault} {w : World} (h : F fault) :
      Ends F Q (.error (.failed (.io message path (.fault fault))) w)

section Ends

variable {α β : Type} {F : Fault → Prop} {Q : α → World → Prop} {R : β → World → Prop}

theorem Ends.bind {x : Check α} {f : α → Check β} (h : Ends F Q (x w))
    (hf : ∀ {a w₁}, Q a w₁ → Ends F R (f a w₁)) : Ends F R ((x >>= f) w) := by
  cases hx : x w with
  | ok a w₁ =>
    rw [hx] at h
    cases h with
    | well ha => exact bind_of_ok hx ▸ hf ha
  | error halt w₁ =>
    rw [hx] at h
    cases h with
    | badly hfault => exact bind_of_error hx ▸ .badly hfault

theorem Ends.within {setting : Setting} {x : Check α}
    (h : Ends F (fun a w₁ => Q a { w₁ with context := w.context })
      (x { w with context := w.context.apply setting })) : Ends F Q (within setting x w) := by
  unfold CheckM.within
  simp only [Context.enter]
  generalize x { w with context := w.context.apply setting } = result at h
  cases h with
  | well ha => exact .well ha
  | badly hfault => exact .badly hfault

theorem Ends.imp {Q' : α → World → Prop} {result : EStateM.Result (Halt CheckError) World α}
    (h : Ends F Q result) (hq : ∀ {a w}, Q a w → Q' a w) : Ends F Q' result := by
  cases h with
  | well ha => exact .well (hq ha)
  | badly hfault => exact .badly hfault

theorem Ends.not_ok {result : EStateM.Result (Halt CheckError) World α} (h : Ends F Q result)
    (hne : ∀ a w, result ≠ .ok a w) : Ends F (fun _ _ => False) result := by
  cases h with
  | well ha => exact absurd rfl (hne _ _)
  | badly hfault => exact .badly hfault

theorem ends_writeText {text : Text} {Q : Unit → World → Prop}
    (hok : ∀ d, w.disk.write p (Text.bytes text) = .ok d → Q () { w with disk := d })
    (herror : ∀ fault, w.disk.write p (Text.bytes text) = .error fault → F fault) :
    Ends F Q (writeText p text w) := by
  rw [writeText, readDisk_bind]
  cases hw : w.disk.write p (Text.bytes text) with
  | ok d => exact .well (hok d hw)
  | error fault => exact .badly (herror fault hw)

theorem ends_canonicalize {Q : Path → World → Prop}
    (hok : ∀ canonical, w.disk.canonicalize p = .ok canonical → Q canonical w)
    (herror : ∀ fault, w.disk.canonicalize p = .error fault → F fault) :
    Ends F Q (canonicalize p w) := by
  rw [canonicalize, readDisk_bind]
  cases hc : w.disk.canonicalize p with
  | ok canonical => exact .well (hok canonical hc)
  | error fault => exact .badly (herror fault hc)

theorem ends_ensureDirectory {Q : Unit → World → Prop} (hthere : w.disk.pathExists p → Q () w)
    (hmade : ∀ d, w.disk.pathExists p = false → w.disk.makeDirectories p = (.ok (), d) →
      Q () { w with disk := d })
    (herror : ∀ fault d, w.disk.pathExists p = false →
      w.disk.makeDirectories p = (.error fault, d) → F fault) :
    Ends F Q (ensureDirectory p w) := by
  rw [ensureDirectory, readDisk_bind]
  cases he : w.disk.pathExists p with
  | true => exact .well (hthere he)
  | false =>
    cases hm : w.disk.makeDirectories p with
    | mk result d =>
      cases result with
      | ok => exact .well (hmade d he hm)
      | error fault => exact .badly (herror fault d he hm)

end Ends

end Check

namespace CheckM

variable {ε α β : Type} {w : World}

def diskAfter (x : CheckM ε α) (w : World) : Disk :=
  match x w with
  | .ok _ w' => w'.disk
  | .error _ w' => w'.disk

/-- A computation that leaves the disk as it is if it succeeds. -/
def KeepsDisk (x : CheckM ε α) : Prop :=
  ∀ {w w' : World} {a : α}, x w = .ok a w' → w'.disk = w.disk

def LeavesDisk (x : CheckM ε α) : Prop := ∀ w, x.diskAfter w = w.disk

theorem diskAfter_of_ok {x : CheckM ε α} {a : α} {w' : World} (h : x w = .ok a w') :
    x.diskAfter w = w'.disk := by
  rw [diskAfter, h]

theorem diskAfter_bind {x : CheckM ε α} {f : α → CheckM ε β} {P : Disk → Prop}
    (hx : P (x.diskAfter w)) (hf : ∀ a w₁, x w = .ok a w₁ → P ((f a).diskAfter w₁)) :
    P ((x >>= f).diskAfter w) := by
  cases h : x w with
  | ok a w₁ =>
    have hbind : (x >>= f).diskAfter w = (f a).diskAfter w₁ := by
      rw [diskAfter, bind_of_ok h, ← diskAfter]
    exact hbind ▸ hf a w₁ h
  | error halt w₁ =>
    have hbind : (x >>= f).diskAfter w = x.diskAfter w := by
      rw [diskAfter, diskAfter, bind_of_error h, h]
    exact hbind ▸ hx

theorem diskAfter_note_if {c : Prop} [Decidable c] {level : Log.Level} {area : Log.Area}
    {message : Text} {next : Unit → CheckM ε α} {P : Disk → Prop}
    (h : ∀ v : World, v.disk = w.disk → P ((next ()).diskAfter v)) :
    P ((if c then note level area message >>= next else next ()).diskAfter w) := by
  split
  · exact h { w with log := w.log.push ⟨level, area, message⟩ } rfl
  · exact h w rfl

theorem diskAfter_within {setting : Setting} {x : CheckM ε α} :
    (within setting x).diskAfter w = x.diskAfter { w with context := w.context.apply setting } := by
  unfold diskAfter within
  simp only [Context.enter]
  cases x { w with context := w.context.apply setting } <;> rfl

namespace LeavesDisk

theorem keepsDisk {x : CheckM ε α} (h : x.LeavesDisk) : x.KeepsDisk := by
  intro w w' a hx
  rw [← h w, diskAfter_of_ok hx]

theorem bind {x : CheckM ε α} {f : α → CheckM ε β} (hx : x.LeavesDisk)
    (hf : ∀ a, (f a).LeavesDisk) : (x >>= f).LeavesDisk := by
  intro w
  refine diskAfter_bind (P := fun d => d = w.disk) (hx w) fun a w₁ h => ?_
  rw [hf a w₁, hx.keepsDisk h]

theorem within {setting : Setting} {x : CheckM ε α} (h : x.LeavesDisk) :
    (within setting x).LeavesDisk := by
  intro w
  rw [diskAfter_within, h]

theorem pure (a : α) : (Pure.pure a : CheckM ε α).LeavesDisk := fun _ => rfl

theorem fail (e : ε) : (CheckM.fail e : CheckM ε α).LeavesDisk := fun _ => rfl

theorem crash (payload : Text) : (CheckM.crash payload : CheckM ε α).LeavesDisk := fun _ => rfl

theorem note {level : Log.Level} {area : Log.Area} {message : Text} :
    (CheckM.note level area message : CheckM ε Unit).LeavesDisk := fun _ => rfl

theorem note_if {c : Prop} [Decidable c] {level : Log.Level} {area : Log.Area} {message : Text}
    {next : Unit → CheckM ε α} (h : (next ()).LeavesDisk) :
    (if c then CheckM.note level area message >>= next else next ()).LeavesDisk := by
  intro w
  exact diskAfter_note_if (P := fun d => d = w.disk) fun v hv => (h v).trans hv

theorem record (request : Request) : (CheckM.record request : CheckM ε Unit).LeavesDisk :=
  fun _ => rfl

theorem readDisk : (CheckM.readDisk : CheckM ε Disk).LeavesDisk := fun _ => rfl

theorem ofExcept {δ : Type} (f : δ → ε) (x : Except δ α) : (CheckM.ofExcept f x).LeavesDisk := by
  cases x with
  | ok a => exact .pure a
  | error e => exact .fail (f e)

theorem readText (p : Path) : (Check.readText p).LeavesDisk := by
  refine .bind .readDisk fun d => ?_
  cases d.readText p with
  | ok text => exact .pure text
  | error fault => exact .fail _

theorem canonicalize (p : Path) : (Check.canonicalize p).LeavesDisk := by
  refine .bind .readDisk fun d => ?_
  cases d.canonicalize p with
  | ok canonical => exact .pure canonical
  | error fault => exact .fail _

end LeavesDisk

end CheckM

def Compiler.KeepsDisk (c : Compiler) : Prop := ∀ path, (c.compile path).KeepsDisk

structure Linter.KeepsDisk (l : Linter) : Prop where
  files : ∀ root, (l.files root).KeepsDisk
  lint : ∀ files, (l.lint files).KeepsDisk

def Compiler.LeavesDisk (c : Compiler) : Prop := ∀ path, (c.compile path).LeavesDisk

/-- A linter that writes no files, also when it fails. -/
structure Linter.LeavesDisk (l : Linter) : Prop where
  files : ∀ root, (l.files root).LeavesDisk
  lint : ∀ files, (l.lint files).LeavesDisk

theorem Linter.LeavesDisk.keepsDisk {l : Linter} (h : l.LeavesDisk) : l.KeepsDisk :=
  ⟨fun root => (h.files root).keepsDisk, fun files => (h.lint files).keepsDisk⟩

theorem Compiler.LeavesDisk.keepsDisk {c : Compiler} (h : c.LeavesDisk) : c.KeepsDisk :=
  fun path => (h path).keepsDisk

namespace Scripted

theorem obey_leavesDisk (rule : Rule) (path : Path) : (obey rule path).LeavesDisk := by
  cases rule with
  | code text => exact .pure _
  | crash payload => exact .crash payload
  | fatal program reason => exact .fail _
  | mistake message line file => exact .pure _

theorem compiler_leavesDisk (rules : List (Text × Rule)) : (compiler rules).LeavesDisk := by
  intro path
  cases hrule : ruleFor? rules path with
  | some rule =>
    simp only [compiler, hrule]
    exact obey_leavesDisk rule path
  | none =>
    simp only [compiler, hrule]
    exact .bind (.readText path) fun _ => .pure _

theorem compiler_keepsDisk (rules : List (Text × Rule)) : (compiler rules).KeepsDisk :=
  (compiler_leavesDisk rules).keepsDisk

theorem linter_leavesDisk (s : LintScript) : (linter s).LeavesDisk := by
  constructor
  · intro root
    cases hfiles : s.files with
    | some given =>
      simp only [linter, hfiles]
      exact .pure given
    | none =>
      simp only [linter, hfiles]
      exact .bind .readDisk fun _ => .ofExcept id _
  · intro files
    cases hfatal : s.fatal with
    | some fatal =>
      simp only [linter, hfatal]
      exact .fail _
    | none =>
      simp only [linter, hfatal]
      exact .pure _

theorem linter_keepsDisk (s : LintScript) : (linter s).KeepsDisk := (linter_leavesDisk s).keepsDisk

end Scripted

end TemplateCheck
