import Mathlib.Data.List.Infix
import TemplateCheck.Proofs.Colour

/-!
Two occurrences of the placeholder never overlap, because it starts with a brace and holds no other
one like it. So an argument is cut into pieces in one way only, and what the file is called has no say
in it: the name is put between the pieces, and nothing in it or around it is looked at again.
-/
namespace TemplateCheck

namespace Text

variable {needle u u' v v' t : Text} {pieces others : List Text}

/-- No rest of the text is also its beginning, except for nothing at all and the whole text. -/
def Unbordered (needle : Text) : Prop :=
  ∀ front back, needle = front ++ back → front ≠ [] → back <+: needle → back = []

theorem unbordered_of_head {c : Char} {rest : Text} (h : c ∉ rest) : Unbordered (c :: rest) := by
  intro front back hsplit hfront hback
  obtain ⟨d, front, rfl⟩ := List.exists_cons_of_ne_nil hfront
  obtain ⟨rfl, rfl⟩ := List.cons.inj hsplit
  by_contra hne
  obtain ⟨d, back, rfl⟩ := List.exists_cons_of_ne_nil hne
  obtain ⟨rfl, -⟩ := List.cons_prefix_cons.1 hback
  exact h (by simp)

theorem Unbordered.prefix_left (hn : Unbordered needle) (hu : u ≠ [])
    (h : needle <+: u ++ (needle ++ v)) : needle <+: u := by
  rcases List.prefix_or_prefix_of_prefix h (List.prefix_append u _) with hleft | ⟨back, hback⟩
  · exact hleft
  · -- the rest of the first occurrence is the beginning of the second
    have hrest : back <+: needle ++ v := by
      obtain ⟨tail, htail⟩ := h
      refine ⟨tail, (List.append_right_inj u).1 ?_⟩
      rw [← List.append_assoc, hback, htail]
    have hshort : back.length ≤ needle.length := by
      rw [← hback, List.length_append]
      omega
    have hborder : back <+: needle := List.prefix_of_prefix_length_le hrest
      (List.prefix_append needle v) hshort
    obtain rfl := hn u back hback.symm hu hborder
    rw [← hback, List.append_nil]

theorem not_infix_of_cons {c : Char} (h : ¬needle <:+: c :: u) : ¬needle <:+: u :=
  fun hu => h (List.infix_cons_iff.2 (.inr hu))

theorem exists_first (hne : needle ≠ []) (h : needle <:+: t) :
    ∃ u v, t = u ++ (needle ++ v) ∧ ¬needle <:+: u := by
  induction t with
  | nil => exact absurd (List.infix_nil.1 h) hne
  | cons c t ih =>
    by_cases hstart : needle <+: c :: t
    · obtain ⟨v, hv⟩ := hstart
      exact ⟨[], v, hv.symm, fun hnil => hne (List.infix_nil.1 hnil)⟩
    · have hlater := (List.infix_cons_iff.1 h).resolve_left hstart
      obtain ⟨u, v, rfl, hu⟩ := ih hlater
      refine ⟨c :: u, v, rfl, fun hinfix => ?_⟩
      rcases List.infix_cons_iff.1 hinfix with hfront | hinside
      · exact hstart (hfront.trans (List.prefix_append (c :: u) _))
      · exact hu hinside

theorem first_unique (hn : Unbordered needle) (hu : ¬needle <:+: u) (hu' : ¬needle <:+: u')
    (h : u ++ (needle ++ v) = u' ++ (needle ++ v')) : u = u' ∧ v = v' := by
  induction u generalizing u' with
  | nil =>
    cases u' with
    | nil => exact ⟨rfl, List.append_cancel_left h⟩
    | cons c u' =>
      have hstart : needle <+: (c :: u') ++ (needle ++ v') := ⟨v, h⟩
      exact absurd (hn.prefix_left (by simp) hstart).isInfix hu'
  | cons c u ih =>
    cases u' with
    | nil =>
      have hstart : needle <+: (c :: u) ++ (needle ++ v) := ⟨v', h.symm⟩
      exact absurd (hn.prefix_left (by simp) hstart).isInfix hu
    | cons c' u' =>
      obtain ⟨rfl, hrest⟩ := List.cons.inj h
      obtain ⟨rfl, rfl⟩ := ih (not_infix_of_cons hu) (not_infix_of_cons hu') hrest
      exact ⟨rfl, rfl⟩

theorem replace_start (hne : needle ≠ []) (replacement v : Text) :
    replace needle replacement (needle ++ v) = replacement ++ replace needle replacement v := by
  obtain ⟨c, rest, rfl⟩ := List.exists_cons_of_ne_nil hne
  have hstart : (c :: rest).isPrefixOf (c :: (rest ++ v)) :=
    List.isPrefixOf_iff_prefix.2 ⟨v, rfl⟩
  rw [List.cons_append, replace, replaceFrom, if_pos hstart, replaceFrom_drop]
  simp

theorem replace_cons {c : Char} (h : ¬needle <+: c :: t) (replacement : Text) :
    replace needle replacement (c :: t) = c :: replace needle replacement t := by
  have hstart : ¬needle.isPrefixOf (c :: t) := mt List.isPrefixOf_iff_prefix.1 h
  rw [replace, replaceFrom, if_neg hstart, replace]

theorem replace_free (h : ¬needle <:+: u) (replacement : Text) :
    replace needle replacement u = u := by
  induction u with
  | nil => rfl
  | cons c u ih =>
    rw [replace_cons (fun hstart => h hstart.isInfix), ih (not_infix_of_cons h)]

theorem replace_first (hn : Unbordered needle) (hu : ¬needle <:+: u) (replacement : Text) :
    replace needle replacement (u ++ (needle ++ v)) =
      u ++ (replacement ++ replace needle replacement v) := by
  induction u with
  | nil =>
    have hne : needle ≠ [] := by
      rintro rfl
      exact hu List.nil_infix
    exact replace_start hne replacement v
  | cons c u ih =>
    have hstart : ¬needle <+: c :: (u ++ (needle ++ v)) :=
      fun h => hu (hn.prefix_left (List.cons_ne_nil c u) h).isInfix
    rw [List.cons_append, replace_cons hstart, ih (not_infix_of_cons hu), List.cons_append]

/-- A text in pieces: the needle stands between any two of them and in none of them. -/
structure Pieces (needle t : Text) (pieces : List Text) : Prop where
  some : pieces ≠ []
  free : ∀ piece ∈ pieces, ¬needle <:+: piece
  joined : join needle pieces = t

theorem join_cons (separator first second : Text) (rest : List Text) :
    join separator (first :: second :: rest) =
      first ++ (separator ++ join separator (second :: rest)) := by
  rw [join, List.intercalate_cons_cons, List.append_assoc, join]

theorem join_singleton (separator piece : Text) : join separator [piece] = piece :=
  List.intercalate_singleton

theorem Pieces.rest {first second : Text} {rest : List Text}
    (h : Pieces needle t (first :: second :: rest)) :
    t = first ++ (needle ++ join needle (second :: rest)) ∧ ¬needle <:+: first ∧
      Pieces needle (join needle (second :: rest)) (second :: rest) := by
  refine ⟨?_, h.free first (by simp), by simp, ?_, rfl⟩
  · rw [← join_cons, h.joined]
  · intro piece hpiece
    exact h.free piece (List.mem_cons_of_mem first hpiece)

theorem exists_pieces (hne : needle ≠ []) (t : Text) : ∃ pieces, Pieces needle t pieces := by
  induction hlength : t.length using Nat.strong_induction_on generalizing t with
  | _ n ih =>
    by_cases hinfix : needle <:+: t
    · obtain ⟨u, v, rfl, hu⟩ := exists_first hne hinfix
      have hpos := List.length_pos_iff.2 hne
      have hshorter : v.length < n := by
        rw [← hlength, List.length_append, List.length_append]
        omega
      obtain ⟨pieces, hpieces⟩ := ih v.length hshorter v rfl
      obtain ⟨second, rest, rfl⟩ := List.exists_cons_of_ne_nil hpieces.some
      refine ⟨u :: second :: rest, by simp, ?_, ?_⟩
      · intro piece hpiece
        rcases List.mem_cons.1 hpiece with rfl | hlater
        · exact hu
        · exact hpieces.free piece hlater
      · rw [join_cons, hpieces.joined]
    · refine ⟨[t], by simp, ?_, join_singleton needle t⟩
      intro piece hpiece
      obtain rfl := List.mem_singleton.1 hpiece
      exact hinfix

theorem Pieces.not_single {first second : Text} {rest : List Text}
    (h : Pieces needle t (first :: second :: rest)) : ¬Pieces needle t [u] := by
  intro hsingle
  obtain ⟨hsplit, -, -⟩ := h.rest
  have hfree := hsingle.free u (by simp)
  have hjoined := hsingle.joined
  rw [join_singleton] at hjoined
  refine hfree ⟨first, join needle (second :: rest), ?_⟩
  rw [hjoined, hsplit, List.append_assoc]

theorem Pieces.unique (hn : Unbordered needle) (h : Pieces needle t pieces)
    (h' : Pieces needle t others) : pieces = others := by
  induction pieces generalizing t others with
  | nil => exact absurd rfl h.some
  | cons first rest ih =>
    obtain ⟨first', rest', rfl⟩ := List.exists_cons_of_ne_nil h'.some
    cases rest with
    | nil =>
      cases rest' with
      | nil =>
        have hjoined := h.joined.trans h'.joined.symm
        rwa [join_singleton, join_singleton, ← List.singleton_inj] at hjoined
      | cons second' rest' => exact absurd h h'.not_single
    | cons second rest =>
      cases rest' with
      | nil => exact absurd h' h.not_single
      | cons second' rest' =>
        obtain ⟨hsplit, hfirst, hrest⟩ := h.rest
        obtain ⟨hsplit', hfirst', hrest'⟩ := h'.rest
        obtain ⟨rfl, hlater⟩ := first_unique hn hfirst hfirst' (hsplit.symm.trans hsplit')
        rw [← hlater] at hrest'
        rw [ih hrest hrest']

theorem Pieces.replace_eq (hn : Unbordered needle) (h : Pieces needle t pieces)
    (replacement : Text) : replace needle replacement t = join replacement pieces := by
  induction pieces generalizing t with
  | nil => exact absurd rfl h.some
  | cons first rest ih =>
    cases rest with
    | nil =>
      have hjoined := h.joined
      rw [join_singleton] at hjoined
      subst hjoined
      rw [join_singleton, replace_free (h.free first (by simp))]
    | cons second rest =>
      obtain ⟨rfl, hfirst, hrest⟩ := h.rest
      rw [replace_first hn hfirst, ih hrest, join_cons]

theorem map_replace {texts : List Text} {cuts : List (List Text)} (hn : Unbordered needle)
    (h : List.Forall₂ (Pieces needle) texts cuts) (replacement : Text) :
    texts.map (replace needle replacement) = cuts.map (join replacement) := by
  induction h with
  | nil => rfl
  | cons hpieces _ ih => rw [List.map_cons, List.map_cons, ih, hpieces.replace_eq hn]

end Text

namespace ToolCommand

open Text

theorem unbordered_placeholder : Unbordered placeholder := unbordered_of_head (by decide)

/-- Every argument is in pieces in one way only, and the name of a file is put between the pieces,
whatever the name is. -/
theorem substitution_is_simultaneous (c : ToolCommand) :
    (∀ arg, ∃! pieces, Pieces placeholder arg pieces) ∧
    (∀ file, (c.argsFor file).length = c.args.length) ∧
    ∀ cuts, List.Forall₂ (Pieces placeholder) c.args cuts →
      ∀ file, c.argsFor file = cuts.map (join file.display) := by
  refine ⟨?_, fun file => List.length_map _,
    fun cuts hcuts file => map_replace unbordered_placeholder hcuts file.display⟩
  intro arg
  have hne : placeholder ≠ [] := by decide
  obtain ⟨pieces, hpieces⟩ := exists_pieces hne arg
  refine ⟨pieces, hpieces, fun others hothers => ?_⟩
  exact hothers.unique unbordered_placeholder hpieces

/-- Pieces that make up placeholders of their own with what is put between them. -/
def trickyCommand : ToolCommand :=
  ⟨"php", ["-l", "\x7bfi\x7bfile\x7dle\x7d", "\x7bfile\x7d\x7bfile\x7d"]⟩

theorem substitution_is_simultaneous_tricky :
    trickyCommand.argsFor "le\x7d\x7bfile\x7d\x7bfi" =
      ["-l", "\x7bfile\x7d\x7bfile\x7d\x7bfile\x7d",
        "le\x7d\x7bfile\x7d\x7bfile\x7d\x7bfile\x7d\x7bfi"] := by
  have hcuts : List.Forall₂ (Pieces placeholder) trickyCommand.args
      [["-l"], ["\x7bfi", "le\x7d"], ["", "", ""]] :=
    .cons ⟨by decide, by decide, by decide⟩ (.cons ⟨by decide, by decide, by decide⟩
      (.cons ⟨by decide, by decide, by decide⟩ .nil))
  exact ((substitution_is_simultaneous trickyCommand).2.2 _ hcuts _).trans (by decide)

end ToolCommand
end TemplateCheck
