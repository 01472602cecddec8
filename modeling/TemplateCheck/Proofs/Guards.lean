import Mathlib.Data.List.Infix
import Mathlib.Data.List.ReduceOption
import TemplateCheck.Context

/-!
A guard remembers the whole context from before its setting, also the part that the setting leaves
alone. As long as guards are released newest first, what each of them remembers is the initial context
under the settings of the guards that are older than it, so the context always shows the settings of
the guards that are still held and no others. In any other order a release still brings back the
context that the guard was made in.
-/
namespace TemplateCheck

def Setting.phase? : Setting → Option Phase
  | .phase p => some p
  | .file _ => none

def Setting.file? : Setting → Option Path
  | .phase _ => none
  | .file path => some path

namespace Context

/-- The context under settings, oldest first: of each kind the newest one shows. -/
def overlay (c : Context) (settings : List Setting) : Context where
  phase := (settings.filterMap Setting.phase?).getLast?.or c.phase
  file := (settings.filterMap Setting.file?).getLast?.or c.file

theorem overlay_nil (c : Context) : c.overlay [] = c := rfl

theorem overlay_snoc (c : Context) (settings : List Setting) (setting : Setting) :
    c.overlay (settings ++ [setting]) = (c.overlay settings).apply setting := by
  cases setting with
  | phase phase => simp [overlay, apply, Setting.phase?, Setting.file?]
  | file path => simp [overlay, apply, Setting.phase?, Setting.file?]

end Context

/-- A context and the guards that were made on it. -/
structure Guarded where
  context : Context
  /-- By number, each with the setting that it was made for; a released one is gone. -/
  guards : List (Option (Setting × Guard)) := []
  deriving DecidableEq, Repr

namespace Guarded

/-- A setting is entered, or the guard of that number is released. -/
inductive Move where
  | enter (setting : Setting)
  | release (number : Nat)
  deriving DecidableEq, Repr

def Move.isEnter : Move → Bool
  | enter _ => true
  | release _ => false

def guard? (g : Guarded) (number : Nat) : Option (Setting × Guard) := g.guards[number]?.join

def enter (g : Guarded) (setting : Setting) : Guarded :=
  let (guard, context) := g.context.enter setting
  ⟨context, g.guards ++ [some (setting, guard)]⟩

def release (g : Guarded) (number : Nat) : Guarded :=
  match g.guard? number with
  | some (_, guard) => ⟨g.context.release guard, g.guards.set number none⟩
  | none => g

def step (g : Guarded) : Move → Guarded
  | .enter setting => g.enter setting
  | .release number => g.release number

def after (g : Guarded) (moves : List Move) : Guarded := moves.foldl step g

def held (g : Guarded) : List (Setting × Guard) := g.guards.reduceOption

def settings (g : Guarded) : List Setting := g.held.map Prod.fst

/-- The guard of that number is held, and none that was made later is. -/
def IsNewest (g : Guarded) (number : Nat) : Prop :=
  g.guard? number ≠ none ∧ (g.guards.drop (number + 1)).reduceOption = []
  deriving Decidable

def InOrder (g : Guarded) : Move → Prop
  | .enter _ => True
  | .release number => g.IsNewest number

instance (g : Guarded) : (move : Move) → Decidable (g.InOrder move)
  | .enter _ => inferInstanceAs (Decidable True)
  | .release number => inferInstanceAs (Decidable (g.IsNewest number))

def Nested (g : Guarded) : List Move → Prop
  | [] => True
  | move :: moves => g.InOrder move ∧ (g.step move).Nested moves

instance Nested.decidable (g : Guarded) : (moves : List Move) → Decidable (g.Nested moves)
  | [] => inferInstanceAs (Decidable True)
  | move :: moves =>
    have := Nested.decidable (g.step move) moves
    inferInstanceAs (Decidable (g.InOrder move ∧ (g.step move).Nested moves))

variable {g : Guarded} {initial : Context} {x : Setting × Guard} {number : Nat} {move : Move}
  {moves : List Move}

theorem guard?_eq_some_iff : g.guard? number = some x ↔ g.guards[number]? = some (some x) :=
  Option.join_eq_some_iff

theorem lt_of_guard? (h : g.guard? number = some x) : number < g.guards.length :=
  (List.getElem?_eq_some_iff.1 (guard?_eq_some_iff.1 h)).1

theorem guards_enter (g : Guarded) (setting : Setting) :
    (g.enter setting).guards = g.guards ++ [some (setting, ⟨g.context⟩)] := rfl

theorem held_enter (g : Guarded) (setting : Setting) :
    (g.enter setting).held = g.held ++ [(setting, ⟨g.context⟩)] := by
  rw [held, guards_enter, List.reduceOption_append]
  rfl

theorem release_of_guard? (h : g.guard? number = some x) :
    g.release number = ⟨x.2.previous, g.guards.set number none⟩ := by
  simp only [release, h, Context.release]

/-- The newest guard is the last one that is held, and its release leaves the others. -/
theorem release_newest (h : g.IsNewest number) :
    ∃ x, g.held = (g.release number).held ++ [x] ∧ (g.release number).context = x.2.previous := by
  obtain ⟨hheld, hlater⟩ := h
  obtain ⟨x, hx⟩ := Option.ne_none_iff_exists'.1 hheld
  obtain ⟨hlt, hslot⟩ := List.getElem?_eq_some_iff.1 (guard?_eq_some_iff.1 hx)
  -- the slots are cut at the guard, before its release and after it
  have hcut : g.guards = g.guards.take number ++ some x :: g.guards.drop (number + 1) := by
    rw [← hslot, List.getElem_cons_drop, List.take_append_drop]
  have hreleased : g.release number =
      ⟨x.2.previous, g.guards.take number ++ none :: g.guards.drop (number + 1)⟩ := by
    rw [release_of_guard? hx, List.set_eq_take_append_cons_drop, if_pos hlt]
  have hleft : (g.release number).held = (g.guards.take number).reduceOption := by
    rw [hreleased, held, List.reduceOption_append, List.reduceOption_cons_of_none, hlater,
      List.append_nil]
  refine ⟨x, ?_, by rw [hreleased]⟩
  calc g.held
      = (g.guards.take number ++ some x :: g.guards.drop (number + 1)).reduceOption := by
        rw [← hcut, held]
    _ = (g.release number).held ++ [x] := by
        rw [List.reduceOption_append, List.reduceOption_cons_of_some, hlater, hleft]

/-- The context shows the settings of the guards that are held, and each guard remembers those of the
guards that are older. -/
structure Stacked (initial : Context) (g : Guarded) : Prop where
  context : g.context = initial.overlay g.settings
  previous : ∀ older x newer, g.held = older ++ x :: newer →
    x.2.previous = initial.overlay (older.map Prod.fst)

theorem stacked_start (initial : Context) : Stacked initial ⟨initial, []⟩ where
  context := rfl
  previous older x newer h := by simp [held] at h

theorem Stacked.enter (h : Stacked initial g) (setting : Setting) :
    Stacked initial (g.enter setting) where
  context := by
    rw [settings, held_enter, List.map_append, List.map_singleton, Context.overlay_snoc, ← settings,
      ← h.context]
    rfl
  previous older x newer hsplit := by
    rw [held_enter] at hsplit
    rcases List.eq_nil_or_concat' newer with rfl | ⟨front, last, rfl⟩
    · -- the guard is the one that was just made
      obtain ⟨rfl, rfl⟩ := List.append_singleton_inj.1 hsplit
      exact h.context
    · rw [← List.cons_append, ← List.append_assoc] at hsplit
      obtain ⟨hheld, -⟩ := List.append_singleton_inj.1 hsplit
      exact h.previous older x front hheld

theorem Stacked.release (h : Stacked initial g) (hn : g.IsNewest number) :
    Stacked initial (g.release number) := by
  obtain ⟨x, hheld, hcontext⟩ := release_newest hn
  constructor
  · rw [hcontext, h.previous _ x [] hheld]
    rfl
  · intro older y newer hsplit
    refine h.previous older y (newer ++ [x]) ?_
    rw [hheld, hsplit, List.append_assoc, List.cons_append]

theorem Stacked.step (h : Stacked initial g) (hm : g.InOrder move) : Stacked initial (g.step move) := by
  cases move with
  | enter setting => exact h.enter setting
  | release number => exact h.release hm

theorem Stacked.after {done : List Move} (h : Stacked initial g) (hn : g.Nested moves)
    (hdone : done <+: moves) : Stacked initial (g.after done) := by
  induction done generalizing g moves with
  | nil => exact h
  | cons move done ih =>
    obtain ⟨rest, rfl⟩ := hdone
    exact ih (h.step hn.1) hn.2 (List.prefix_append done rest)

theorem guard?_step (h : g.guard? number = some x) (hm : move ≠ .release number) :
    (g.step move).guard? number = some x := by
  cases move with
  | enter setting =>
    have hlt := lt_of_guard? h
    rw [guard?_eq_some_iff] at h ⊢
    rwa [Guarded.step, guards_enter, List.getElem?_append_left hlt]
  | release other =>
    have hne : other ≠ number := fun he => hm (by rw [he])
    cases hother : g.guard? other with
    | none => rwa [Guarded.step, Guarded.release, hother]
    | some y =>
      rw [Guarded.step, release_of_guard? hother]
      rw [guard?_eq_some_iff] at h ⊢
      rwa [List.getElem?_set_ne hne]

theorem guard?_after (h : g.guard? number = some x) (hm : Move.release number ∉ moves) :
    (g.after moves).guard? number = some x := by
  induction moves generalizing g with
  | nil => exact h
  | cons move moves ih =>
    rw [List.mem_cons, not_or] at hm
    exact ih (guard?_step h (Ne.symm hm.1)) hm.2

theorem length_step (g : Guarded) (move : Move) :
    (g.step move).guards.length = g.guards.length + if move.isEnter then 1 else 0 := by
  cases move with
  | enter setting => simp [step, guards_enter, Move.isEnter]
  | release number =>
    simp only [step, release, Move.isEnter]
    split <;> simp

theorem length_after (g : Guarded) (moves : List Move) :
    (g.after moves).guards.length = g.guards.length + moves.countP Move.isEnter := by
  induction moves generalizing g with
  | nil => rfl
  | cons move moves ih =>
    rw [after, List.foldl_cons, ← after, ih, length_step, List.countP_cons]
    omega

theorem context_release (setting : Setting) {between : List Move}
    (hb : Move.release g.guards.length ∉ between) :
    (((g.enter setting).after between).release g.guards.length).context = g.context := by
  have hmade : (g.enter setting).guard? g.guards.length = some (setting, ⟨g.context⟩) := by
    rw [guard?_eq_some_iff, guards_enter, List.getElem?_concat_length]
  rw [release_of_guard? (guard?_after hmade hb)]

/-- Where guards are released newest first, the context after every move is the initial one under the
settings of the guards that are held, and the initial one again when none is. In whatever order, the
release of a guard brings back the context that it was made in. -/
theorem guards_act_as_stack (initial : Context) (moves : List Move) :
    (Nested ⟨initial, []⟩ moves → ∀ done, done <+: moves →
      (after ⟨initial, []⟩ done).context =
        initial.overlay (after ⟨initial, []⟩ done).settings ∧
      ((after ⟨initial, []⟩ done).held = [] → (after ⟨initial, []⟩ done).context = initial)) ∧
    ∀ before setting between, moves = before ++ .enter setting :: between →
      .release (before.countP Move.isEnter) ∉ between →
      (after ⟨initial, []⟩ (moves ++ [.release (before.countP Move.isEnter)])).context =
        (after ⟨initial, []⟩ before).context := by
  constructor
  · intro hn done hdone
    have hstacked := (stacked_start initial).after hn hdone
    refine ⟨hstacked.context, fun hnone => ?_⟩
    rw [hstacked.context, settings, hnone, List.map_nil, Context.overlay_nil]
  · rintro before setting between rfl hb
    have hnumber := length_after ⟨initial, []⟩ before
    rw [List.length_nil, Nat.zero_add] at hnumber
    rw [← hnumber] at hb ⊢
    have hrun := context_release setting hb
    simpa [after, step] using hrun

/-- Phases and files entered in turns: a nested run, and then one whose oldest guard goes first. -/
theorem guards_act_as_stack_interleaved :
    let initial : Context := ⟨some .report, none⟩
    let nested : List Move :=
      [.enter (.phase .compile), .enter (.file "/a"), .enter (.phase .lint), .release 2,
        .enter (.file "/b"), .release 3, .release 1, .release 0]
    let entered : List Move :=
      [.enter (.phase .compile), .enter (.file "/a"), .release 0, .enter (.phase .lint)]
    Nested ⟨initial, []⟩ nested ∧
    (after ⟨initial, []⟩ (nested.take 5)).context = ⟨some .compile, some "/b"⟩ ∧
    (after ⟨initial, []⟩ nested).context = initial ∧
    ¬Nested ⟨initial, []⟩ entered ∧
    (after ⟨initial, []⟩ (entered ++ [.release 1])).context = ⟨some .compile, none⟩ := by
  intro initial nested entered
  have hnested : Nested ⟨initial, []⟩ nested := by decide
  have hstack := (guards_act_as_stack initial nested).1 hnested
  have hfive := (hstack (nested.take 5) (List.take_prefix 5 nested)).1
  have hall := (hstack nested List.prefix_rfl).2 (by decide)
  have hsecond := (guards_act_as_stack initial entered).2 [.enter (.phase .compile)] (.file "/a")
    [.release 0, .enter (.phase .lint)] rfl (by decide)
  exact ⟨hnested, hfive.trans (by decide), hall, by decide, hsecond⟩

end Guarded
end TemplateCheck
