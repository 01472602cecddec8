import Mathlib.Tactic.SplitIfs
import TemplateCheck.Pattern.Expr

/-!
A match is a function from ways to go on to ways to go on. Such a way accepts a text if it leads to
a match, with certain groups, and refuses it if it leads nowhere. Each form of expression has a lemma
for both: a greedy loop over a set of characters accepts with the longest piece behind which the rest
accepts, a lazy one with the shortest, and a loop refuses if the rest refuses behind every piece.
-/
namespace TemplateCheck

theorem Cursor.capture_append (before : Option Char) (name u v : Text)
    (groups : List (Text × Text)) :
    (⟨before, v, groups⟩ : Cursor).capture name (u ++ v) = ⟨before, v, (name, u) :: groups⟩ := by
  simp [Cursor.capture]

theorem CharSet.contains_single {a c : Char} : (single a).contains c ↔ c = a := by
  simp only [single, contains, Bool.and_eq_true, decide_eq_true_eq, ← Char.toNat_inj]
  omega

namespace Expr

/-- The way leads from a text to a match with these groups, whatever stands before the text. -/
def Accepts (next : Cont) (t : Text) (groups result : List (Text × Text)) : Prop :=
  ∀ before, ∃ found, next ⟨before, t, groups⟩ = some found ∧ found.groups = result

/-- The way leads nowhere from a text, whatever stands before it. -/
def Refuses (next : Cont) (t : Text) (groups : List (Text × Text)) : Prop :=
  ∀ before, next ⟨before, t, groups⟩ = none

/-- The characters of a text one after the other, and then the expression. -/
def literal (t : Text) (e : Expr) : Expr := t.foldr (fun c e => seq (set (.single c)) e) e

variable {a b e : Expr} {members : CharSet} {greedy : Bool} {next : Cont} {name t u v : Text}
  {c : Char} {groups result : List (Text × Text)}

theorem accepts_set (hc : members.contains c) (h : Accepts next v groups result) :
    Accepts (run (set members) next) (c :: v) groups result := by
  intro before
  simpa [run, hc] using h (some c)

theorem refuses_set (h : ∀ c v, t = c :: v → members.contains c → Refuses next v groups) :
    Refuses (run (set members) next) t groups := by
  intro before
  cases t with
  | nil => rfl
  | cons c v =>
    by_cases hc : members.contains c
    · simpa [run, hc] using h c v rfl hc (some c)
    · simp [run, hc]

theorem accepts_literal (h : Accepts (run e next) v groups result) :
    Accepts (run (literal t e) next) (t ++ v) groups result := by
  induction t with
  | nil => exact h
  | cons c t ih => exact accepts_set (CharSet.contains_single.2 rfl) ih

theorem refuses_literal (h : ∀ v, t = u ++ v → Refuses (run e next) v groups) :
    Refuses (run (literal u e) next) t groups := by
  induction u generalizing t with
  | nil => exact h t rfl
  | cons a u ih =>
    apply refuses_set
    rintro c v rfl hc
    obtain rfl := CharSet.contains_single.1 hc
    apply ih
    rintro w rfl
    exact h w rfl

theorem accepts_alt_left (h : Accepts (run a next) t groups result) :
    Accepts (run (alt a b) next) t groups result := by
  intro before
  obtain ⟨found, hfound, hgroups⟩ := h before
  exact ⟨found, by simp [run, prefer, hfound], hgroups⟩

theorem accepts_alt_right (ha : Refuses (run a next) t groups)
    (hb : Accepts (run b next) t groups result) : Accepts (run (alt a b) next) t groups result := by
  intro before
  obtain ⟨found, hfound, hgroups⟩ := hb before
  exact ⟨found, by simp [run, prefer, ha before, hfound], hgroups⟩

theorem refuses_alt (ha : Refuses (run a next) t groups) (hb : Refuses (run b next) t groups) :
    Refuses (run (alt a b) next) t groups := by
  intro before
  simp [run, prefer, ha before, hb before]

def Piece (members : CharSet) (u : Text) : Prop := ∀ c ∈ u, members.contains c

theorem piece_cons : Piece members (c :: u) ↔ members.contains c ∧ Piece members u := by
  simp [Piece]

theorem rounds_nil (greedy : Bool) (members : CharSet) (next : Cont) (n : Nat)
    (before : Option Char) (groups : List (Text × Text)) :
    rounds greedy (run (set members)) next n ⟨before, [], groups⟩ = next ⟨before, [], groups⟩ := by
  cases n with
  | zero => rfl
  | succ n =>
    cases greedy with
    | true => rfl
    | false =>
      simp only [rounds, prefer, run]
      cases next ⟨before, [], groups⟩ <;> rfl

theorem rounds_cons (greedy : Bool) (members : CharSet) (next : Cont) (n : Nat)
    (before : Option Char) (c : Char) (t : Text) (groups : List (Text × Text)) :
    rounds greedy (run (set members)) next (n + 1) ⟨before, c :: t, groups⟩ =
      prefer greedy
        (fun _ => if members.contains c then
          rounds greedy (run (set members)) next n ⟨some c, t, groups⟩ else none)
        next ⟨before, c :: t, groups⟩ := by
  cases greedy <;> simp [rounds, prefer, run]

theorem plus_cons (greedy : Bool) (members : CharSet) (next : Cont) (before : Option Char)
    (c : Char) (t : Text) (groups : List (Text × Text)) :
    run (plus greedy (set members)) next ⟨before, c :: t, groups⟩ =
      if members.contains c then
        rounds greedy (run (set members)) next t.length ⟨some c, t, groups⟩
      else none := by
  simp [run]

theorem refuses_rounds {n : Nat}
    (h : ∀ u v, t = u ++ v → Piece members u → Refuses next v groups) :
    Refuses (rounds greedy (run (set members)) next n) t groups := by
  intro before
  have hnone : next ⟨before, t, groups⟩ = none := h [] t rfl (by simp [Piece]) before
  induction n generalizing t before with
  | zero => exact hnone
  | succ n ih =>
    cases t with
    | nil => rw [rounds_nil, hnone]
    | cons c t =>
      have hround : (if members.contains c then
          rounds greedy (run (set members)) next n ⟨some c, t, groups⟩ else none) =
            none := by
        split_ifs with hc
        · have hlater : ∀ u v, t = u ++ v → Piece members u → Refuses next v groups := by
            rintro u v rfl hu
            exact h (c :: u) v rfl (piece_cons.2 ⟨hc, hu⟩)
          exact ih hlater (some c) (hlater [] t rfl (by simp [Piece]) (some c))
        · rfl
      rw [rounds_cons, hround]
      cases greedy <;> simp [prefer, hnone]

theorem refuses_plus
    (h : ∀ u v, u ≠ [] → t = u ++ v → Piece members u → Refuses next v groups) :
    Refuses (run (plus greedy (set members)) next) t groups := by
  intro before
  cases t with
  | nil => rfl
  | cons c t =>
    rw [plus_cons]
    split_ifs with hc
    · apply refuses_rounds
      rintro u v rfl hu
      exact h (c :: u) v (by simp) rfl (piece_cons.2 ⟨hc, hu⟩)
    · rfl

/-- Greedy rounds read on while they can, and the rest accepts behind no longer piece. -/
theorem accepts_rounds_greedy {n : Nat} (hn : u.length ≤ n) (hu : Piece members u)
    (hv : Accepts next v groups result)
    (hlonger : ∀ u' v', u' ≠ [] → v = u' ++ v' → Piece members u' → Refuses next v' groups) :
    Accepts (rounds true (run (set members)) next n) (u ++ v) groups result := by
  intro before
  induction u generalizing n before with
  | nil =>
    obtain ⟨found, hfound, hgroups⟩ := hv before
    refine ⟨found, ?_, hgroups⟩
    cases v with
    | nil => rw [List.append_nil, rounds_nil, hfound]
    | cons c v =>
      cases n with
      | zero => exact hfound
      | succ n =>
        have hround : (if members.contains c then
            rounds true (run (set members)) next n ⟨some c, v, groups⟩ else none) = none := by
          split_ifs with hc
          · apply refuses_rounds
            rintro u' v' rfl hu'
            exact hlonger (c :: u') v' (by simp) rfl (piece_cons.2 ⟨hc, hu'⟩)
          · rfl
        simp only [List.nil_append, rounds_cons, hround, prefer, hfound]
  | cons c u ih =>
    obtain ⟨n, rfl⟩ : ∃ m, n = m + 1 := Nat.exists_eq_add_one.2 (by simp at hn; omega)
    obtain ⟨hc, hu⟩ := piece_cons.1 hu
    obtain ⟨found, hfound, hgroups⟩ := ih (by simpa using hn) hu (some c)
    refine ⟨found, ?_, hgroups⟩
    simp only [List.cons_append, rounds_cons, hc, if_true, prefer, hfound]

/-- Lazy rounds stop as soon as the rest accepts, which it does behind no shorter piece. -/
theorem accepts_rounds_lazy {n : Nat} (hn : u.length ≤ n) (hu : Piece members u)
    (hv : Accepts next v groups result)
    (hshorter : ∀ u₁ u₂, u = u₁ ++ u₂ → u₂ ≠ [] → Refuses next (u₂ ++ v) groups) :
    Accepts (rounds false (run (set members)) next n) (u ++ v) groups result := by
  intro before
  induction u generalizing n before with
  | nil =>
    obtain ⟨found, hfound, hgroups⟩ := hv before
    refine ⟨found, ?_, hgroups⟩
    cases n with
    | zero => exact hfound
    | succ n => simp only [List.nil_append, rounds, prefer, hfound]
  | cons c u ih =>
    obtain ⟨n, rfl⟩ : ∃ m, n = m + 1 := Nat.exists_eq_add_one.2 (by simp at hn; omega)
    obtain ⟨hc, hu⟩ := piece_cons.1 hu
    have hnone : next ⟨before, c :: (u ++ v), groups⟩ = none :=
      hshorter [] (c :: u) rfl (by simp) before
    have hlater : ∀ u₁ u₂, u = u₁ ++ u₂ → u₂ ≠ [] → Refuses next (u₂ ++ v) groups := by
      rintro u₁ u₂ rfl
      exact hshorter (c :: u₁) u₂ rfl
    obtain ⟨found, hfound, hgroups⟩ := ih (by simpa using hn) hu hlater (some c)
    refine ⟨found, ?_, hgroups⟩
    simp only [List.cons_append, rounds_cons, hc, if_true, prefer, hnone, hfound]

theorem accepts_plus_greedy (hne : u ≠ []) (hu : Piece members u)
    (hv : Accepts next v groups result)
    (hlonger : ∀ u' v', u' ≠ [] → v = u' ++ v' → Piece members u' → Refuses next v' groups) :
    Accepts (run (plus true (set members)) next) (u ++ v) groups result := by
  intro before
  obtain ⟨c, u, rfl⟩ := List.exists_cons_of_ne_nil hne
  obtain ⟨hc, hu⟩ := piece_cons.1 hu
  rw [List.cons_append, plus_cons, if_pos hc]
  exact accepts_rounds_greedy (by simp) hu hv hlonger (some c)

theorem accepts_plus_lazy (hne : u ≠ []) (hu : Piece members u) (hv : Accepts next v groups result)
    (hshorter : ∀ u₁ u₂, u = u₁ ++ u₂ → u₁ ≠ [] → u₂ ≠ [] → Refuses next (u₂ ++ v) groups) :
    Accepts (run (plus false (set members)) next) (u ++ v) groups result := by
  intro before
  obtain ⟨c, u, rfl⟩ := List.exists_cons_of_ne_nil hne
  obtain ⟨hc, hu⟩ := piece_cons.1 hu
  rw [List.cons_append, plus_cons, if_pos hc]
  apply accepts_rounds_lazy (by simp) hu hv
  rintro u₁ u₂ rfl
  exact hshorter (c :: u₁) u₂ rfl (by simp)

theorem accepts_repeated_zero (h : Accepts (run (plus true e) next) t groups result) :
    Accepts (run (repeated 0 none true e) next) t groups result := by
  intro before
  obtain ⟨found, hfound, hgroups⟩ := h before
  have hfirst : run (repeated 0 none true e) next ⟨before, t, groups⟩ =
      prefer true (run (plus true e) next) next ⟨before, t, groups⟩ := rfl
  exact ⟨found, by rw [hfirst, prefer, hfound], hgroups⟩

theorem accepts_capture (h : Accepts next v ((name, u) :: groups) result) :
    Accepts (fun s => next (s.capture name (u ++ v))) v groups result := by
  intro before
  simpa only [Cursor.capture_append] using h before

theorem refuses_capture (h : Refuses next v ((name, u) :: groups)) :
    Refuses (fun s => next (s.capture name (u ++ v))) v groups := by
  intro before
  simpa only [Cursor.capture_append] using h before

theorem accepts_group_greedy (hne : u ≠ []) (hu : Piece members u)
    (hv : Accepts next v ((name, u) :: groups) result)
    (hlonger : ∀ u' v', u' ≠ [] → v = u' ++ v' → Piece members u' →
      Refuses next v' ((name, u ++ u') :: groups)) :
    Accepts (run (group name (repeated 1 none true (set members))) next) (u ++ v) groups
      result := by
  have hloop : Accepts (run (plus true (set members)) fun s => next (s.capture name (u ++ v)))
      (u ++ v) groups result := by
    apply accepts_plus_greedy hne hu (accepts_capture hv)
    rintro u' v' hne' rfl hu'
    rw [← List.append_assoc]
    exact refuses_capture (hlonger u' v' hne' rfl hu')
  exact hloop

theorem accepts_group_lazy (hne : u ≠ []) (hu : Piece members u)
    (hv : Accepts next v ((name, u) :: groups) result)
    (hshorter : ∀ u₁ u₂, u = u₁ ++ u₂ → u₁ ≠ [] → u₂ ≠ [] →
      Refuses next (u₂ ++ v) ((name, u₁) :: groups)) :
    Accepts (run (group name (repeated 1 none false (set members))) next) (u ++ v) groups
      result := by
  have hloop : Accepts (run (plus false (set members)) fun s => next (s.capture name (u ++ v)))
      (u ++ v) groups result := by
    apply accepts_plus_lazy hne hu (accepts_capture hv)
    rintro u₁ u₂ rfl hne₁ hne₂
    rw [List.append_assoc]
    exact refuses_capture (hshorter u₁ u₂ rfl hne₁ hne₂)
  exact hloop

theorem refuses_group
    (h : ∀ u v, u ≠ [] → t = u ++ v → Piece members u → Refuses next v ((name, u) :: groups)) :
    Refuses (run (group name (repeated 1 none greedy (set members))) next) t groups := by
  have hloop : Refuses (run (plus greedy (set members)) fun s => next (s.capture name t))
      t groups := by
    apply refuses_plus
    rintro u v hne rfl hu
    exact refuses_capture (h u v hne rfl hu)
  exact hloop

/-- A search finds the match behind a piece at whose places there is none. -/
theorem search_of_accepts
    (hskip : ∀ u₁ u₂, u = u₁ ++ u₂ → u₂ ≠ [] → Refuses (run e some) (u₂ ++ t) [])
    (h : Accepts (run e some) t [] result) :
    ∃ found, search e (u ++ t) = some found ∧ found.groups = result := by
  suffices hfrom : ∀ before,
      ∃ found, searchFrom e before (u ++ t) = some found ∧ found.groups = result from hfrom none
  intro before
  induction u generalizing before with
  | nil =>
    obtain ⟨found, hfound, hgroups⟩ := h before
    refine ⟨found, ?_, hgroups⟩
    cases t with
    | nil => exact hfound
    | cons c t => simp only [List.nil_append, searchFrom, hfound]
  | cons c u ih =>
    have hnone : run e some ⟨before, c :: (u ++ t), []⟩ = none :=
      hskip [] (c :: u) rfl (by simp) before
    simp only [List.cons_append, searchFrom, hnone]
    apply ih
    rintro u₁ u₂ rfl
    exact hskip (c :: u₁) u₂ rfl

end Expr
end TemplateCheck
