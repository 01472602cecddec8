import TemplateCheck.Proofs.Blocking
import TemplateCheck.Proofs.Tree

/-!
Each template asks for a piece: a file below the root, or only the directories on the way to it. As
long as no piece is in the way of another one, the disk after any number of pieces is known in closed
form, and the order in which they were laid does not show. Whether a piece can be laid at all is
decided by the disk at the start.
-/
namespace TemplateCheck

open Path

namespace Disk

variable {d d' e : Disk} {place other : Place} {names before : List Text} {name : Text} {root : Path}

theorem paved_of_descend (hn : AllNames names) {found : Place}
    (h : d.descend place names = .arrived found) (hd : d.get? found = some .directory) :
    d.Paved place names := by
  induction names generalizing place with
  | nil => trivial
  | cons name rest ih =>
    rw [allNames_cons] at hn
    rcases Nat.lt_or_ge nameLimit name.length with hl | hl
    · simp [descend_tooLong hn.1 hl] at h
    · rw [descend_name hn.1 hl] at h
      cases he : d.get? (place ++ [name]) with
      | none => simp [he] at h
      | some entry =>
        cases entry with
        | directory =>
          simp only [he] at h
          exact ⟨⟨hl, he⟩, ih hn.2 h⟩
        | file body =>
          by_cases hr : rest = []
          · obtain rfl : place ++ [name] = found := by simpa [he, hr] using h
            simp [hd] at he
          · simp [he, hr] at h
        | link target => simp [he] at h

theorem paved_of_isDirectory (ground : d.Ground root place) (hn : AllNames names) (hne : names ≠ [])
    (h : d.isDirectory (ofSegments (root.base ++ names))) : d.Paved place names := by
  obtain ⟨-, found, hfound, hdir⟩ := (isDirectory_below ground hn hne).1 h
  exact paved_of_descend hn hfound hdir

theorem Paved.short (h : d.Paved place names) : ∀ n ∈ names, n.length ≤ nameLimit := by
  induction names generalizing place with
  | nil => simp
  | cons name rest ih =>
    rw [List.forall_mem_cons]
    exact ⟨h.1.1, ih h.2⟩

theorem Paved.front {front back : List Text} (h : d.Paved place (front ++ back))
    (hne : front ≠ []) : d.get? (place ++ front) = some .directory := by
  obtain ⟨init, last, rfl⟩ := exists_snoc hne
  have hlast := (paved_append.1 (paved_append.1 h).1).2
  rw [← List.append_assoc]
  exact hlast.1.2

theorem Passable.front {front back : List Text} (h : d.Passable place names)
    (hsplit : names = front ++ back) (hne : front ≠ []) :
    d.get? (place ++ front) = none ∨ d.get? (place ++ front) = some .directory := by
  subst hsplit
  obtain ⟨init, last, rfl⟩ := exists_snoc hne
  have hlast := (passable_append.1 (passable_append.1 h).1).2
  rw [← List.append_assoc]
  exact hlast.1

theorem Laid.own (h : Laid d place before d') :
    d'.get? (place ++ (before ++ [name])) = d.get? (place ++ (before ++ [name])) := by
  cases he : d.get? (place ++ (before ++ [name])) with
  | some entry => exact h.adds.kept he
  | none =>
    by_contra hnew
    obtain ⟨front, back, hsplit, -, hother⟩ := h.along he hnew
    have hsame := congrArg List.length (List.append_cancel_left hother)
    have hlength := congrArg List.length hsplit
    simp at hsame hlength
    omega

theorem Adds.passable_of_paved (h : Adds d d') (hp : d'.Paved place names) :
    d.Passable place names := by
  apply passable_of_fronts
  rintro front back rfl hne
  have hdir := hp.front hne
  cases he : d.get? (place ++ front) with
  | none => exact .inl rfl
  | some entry =>
    rw [h.kept he] at hdir
    exact .inr hdir

theorem spellingFault_front (hn : AllNames before) (hne : before ≠ []) {others : List Text}
    (h : spellingFault (ofSegments (root.base ++ (before ++ others))) = none) :
    spellingFault (ofSegments (root.base ++ before)) = none := by
  obtain ⟨tail, ht⟩ := text_ofSegments_append (root.base ++ before) others
  rw [List.append_assoc] at ht
  exact spellingFault_of_front h ht (text_below_ne_nil hn hne)

theorem descend_ne_tooLong (hn : AllNames names)
    (hshort : ∀ n ∈ names, n.length ≤ nameLimit) :
    d.descend place names ≠ .failed .nameTooLong := by
  induction names generalizing place with
  | nil => simp
  | cons name rest ih =>
    rw [allNames_cons] at hn
    rw [List.forall_mem_cons] at hshort
    rw [descend_name hn.1 hshort.1]
    split
    · simp
    · exact ih hn.2 hshort.2
    · split <;> simp
    · simp

theorem makeDirectory_short (ground : d.Ground root place) (hn : AllNames before)
    (hname : isName name) (hpaved : d.Paved place before)
    (hpass : d.Passable (place ++ before) [name]) (hshort : name.length ≤ nameLimit)
    (hs : spellingFault (ofSegments (root.base ++ (before ++ [name]))) = none) :
    (∃ made, d.makeDirectory (ofSegments (root.base ++ (before ++ [name]))) = .ok made) ∨
      d.makeDirectory (ofSegments (root.base ++ (before ++ [name]))) = .error .alreadyExists ∧
        d.isDirectory (ofSegments (root.base ++ (before ++ [name]))) := by
  have happroach := approach_paved ground hn hname hpaved
  rw [if_neg (Nat.not_lt.2 hshort)] at happroach
  cases makeDirectory_paved ground hn hname hpaved hpass with
  | made _ _ eq => exact .inl ⟨_, eq⟩
  | there _ _ eq hdir => exact .inr ⟨eq, hdir⟩
  | spelled fault hf eq _ =>
    -- nothing is wrong with the spelling, so this is not how it ends
    simp only [makeDirectory, hs, happroach] at eq
    split at eq
    · obtain rfl := Except.error.inj eq
      exact absurd hf (by simp [OfSpelling])
    · simp at eq

theorem makeLineage_ok (ground : d.Ground root place) (hn : AllNames names) (hne : names ≠ [])
    (hpass : d.Passable place names) (hshort : ∀ n ∈ names, n.length ≤ nameLimit)
    (hs : spellingFault (ofSegments (root.base ++ names)) = none) {fuel : Nat}
    (hfuel : names.length ≤ fuel) :
    ∃ d', d.makeLineage (lineage.go fuel (ofSegments (root.base ++ names))) = (.ok (), d') := by
  induction names using List.reverseRecOn generalizing fuel with
  | nil => exact absurd rfl hne
  | append_singleton before name ih =>
    have htext : (ofSegments (root.base ++ (before ++ [name]))).text ≠ [] :=
      text_below_ne_nil hn hne
    obtain ⟨hfront, hlast⟩ := allNames_append.1 hn
    have hname : isName name := (allNames_cons.1 hlast).1
    obtain ⟨hbefore, hpassname⟩ := passable_append.1 hpass
    obtain ⟨fuel, rfl⟩ : ∃ n, fuel = n + 1 := ⟨fuel - 1, by simp at hfuel; omega⟩
    rw [lineage.go, makeLineage, if_neg (by simpa using htext)]
    by_cases hpaved : d.Paved place before
    · rcases makeDirectory_short ground hfront hname hpaved hpassname (hshort name (by simp)) hs with
        ⟨made, hmade⟩ | ⟨hthere, hdir⟩
      · exact ⟨made, by simp only [hmade]⟩
      · exact ⟨d, by simp only [hthere, hdir, if_true]⟩
    · have hne' : before ≠ [] := fun hnil => hpaved (hnil ▸ trivial)
      have hmissing : d.makeDirectory (ofSegments (root.base ++ (before ++ [name]))) =
          .error .notFound := by
        have happroach := approach_below ground hfront hname
        rcases hbefore.descend hfront with hp | hm | hl
        · exact absurd hp hpaved
        · rw [follow_failed hm] at happroach
          simp [makeDirectory, hs, happroach]
        · exact absurd hl (descend_ne_tooLong hfront fun n h => hshort n (by simp [h]))
      have hshorter : before.length ≤ fuel := by simpa using hfuel
      obtain ⟨d₁, hup⟩ := ih hfront hne' hbefore (fun n h => hshort n (by simp [h]))
        (spellingFault_front hfront hne' hs) hshorter
      have hlaid := makeLineage_below ground hfront hne' hbefore hshorter
      rw [hup] at hlaid
      cases hlaid with
      | laid hlaid =>
        have hground := hlaid.adds.grows.ground ground
        simp only [hmissing, parent_below hn hne', hup]
        rcases makeDirectory_short hground hfront hname hlaid.paved (hlaid.adds.passable hpassname)
          (hshort name (by simp)) hs with ⟨made, hmade⟩ | ⟨hthere, hdir⟩
        · exact ⟨made, by simp only [hmade]⟩
        · exact ⟨d₁, by simp only [hthere, hdir, if_true]⟩

theorem makeDirectories_laid (ground : d.Ground root place) (hn : AllNames names) (hne : names ≠ [])
    (hpass : d.Passable place names) (hshort : ∀ n ∈ names, n.length ≤ nameLimit)
    (hs : spellingFault (ofSegments (root.base ++ names)) = none) :
    ∃ d', d.makeDirectories (ofSegments (root.base ++ names)) = (.ok (), d') ∧
      Laid d place names d' := by
  have hlength := length_segments_le (ofSegments (root.base ++ names))
  rw [segments_below hn hne, List.length_append] at hlength
  obtain ⟨d', hd'⟩ := makeLineage_ok ground hn hne hpass hshort hs
    (show names.length ≤ (ofSegments (root.base ++ names)).text.length + 1 by omega)
  have hmade := makeDirectories_below ground hn hne hpass
  change d.makeDirectories (ofSegments (root.base ++ names)) = (.ok (), d') at hd'
  rw [hd'] at hmade
  cases hmade with
  | laid hlaid => exact ⟨d', hd', hlaid⟩

/-- A file that was written on a paved way had a place there, and nothing was too long. -/
theorem write_paved_inv {body : ByteArray} (ground : d.Ground root place) (hn : AllNames before)
    (hname : isName name) (hpaved : d.Paved place before)
    (h : d.write (ofSegments (root.base ++ (before ++ [name]))) body = .ok d') :
    name.length ≤ nameLimit ∧
      spellingFault (ofSegments (root.base ++ (before ++ [name]))) = none ∧
      (d.get? (place ++ (before ++ [name])) = none ∨
        ∃ old, d.get? (place ++ (before ++ [name])) = some (.file old)) := by
  have happroach := approach_paved ground hn hname hpaved
  unfold write at h
  split at h
  · simp at h
  · next hs =>
    rw [writeFrom, happroach] at h
    rcases Nat.lt_or_ge nameLimit name.length with hlong | hshort
    · simp [hlong] at h
    · refine ⟨hshort, hs, ?_⟩
      simp only [if_neg (Nat.not_lt.2 hshort)] at h
      rw [List.append_assoc] at h
      split at h
      · next hnone => exact .inl hnone
      · next old hold => exact .inr ⟨old, hold⟩
      · simp at h
      · next hlink => exact absurd hlink (ground.linkFree _ _)

/-- The names of an artifact below the root, and its body if it has one. -/
structure Piece where
  names : List Text
  body : Option ByteArray

namespace Piece

def Writes (piece : Piece) (place other : Place) : Prop :=
  piece.body ≠ none ∧ other = place ++ piece.names

def Crosses (piece : Piece) (place other : Place) : Prop :=
  ∃ front back, piece.names = front ++ back ∧ front ≠ [] ∧ back ≠ [] ∧ other = place ++ front

theorem not_crosses_singleton {name : Text} {body : Option ByteArray} {place other : Place}
    (h : Crosses ⟨[name], body⟩ place other) : False := by
  obtain ⟨front, back, hnames, hfront, hback, -⟩ := h
  have hlength := congrArg List.length hnames
  have hfront := List.length_pos_of_ne_nil hfront
  have hback := List.length_pos_of_ne_nil hback
  simp at hlength
  omega

def Apart (a b : Piece) : Prop := ¬a.names <+: b.names ∧ ¬b.names <+: a.names

end Piece

/-- The disk after some pieces, from the disk before. -/
structure Layout (d : Disk) (place : Place) (pieces : List Piece) (d' : Disk) : Prop where
  workdir : d'.workdir = d.workdir
  written : ∀ {piece body}, piece ∈ pieces → piece.body = some body →
    d'.get? (place ++ piece.names) = some (.file body)
  crossed : ∀ {piece other}, piece ∈ pieces → piece.Crosses place other → d.get? other = none →
    d'.get? other = some .directory
  kept : ∀ {other}, (∀ piece ∈ pieces, ¬piece.Writes place other) →
    (d.get? other ≠ none ∨ ∀ piece ∈ pieces, ¬piece.Crosses place other) →
    d'.get? other = d.get? other

variable {pieces others : List Piece} {piece : Piece}

theorem Layout.nil (d : Disk) (place : Place) : Layout d place [] d := by
  refine ⟨rfl, ?_, ?_, ?_⟩
  · intro piece body hp
    simp at hp
  · intro piece other hp
    simp at hp
  · intro other _ _
    rfl

/-- The closed form leaves nothing open, and does not depend on the order of the pieces. -/
theorem Layout.alike (h : Layout d place pieces d') (k : Layout d place others e)
    (hm : ∀ piece, piece ∈ pieces ↔ piece ∈ others) : Alike d' e := by
  refine ⟨k.workdir.trans h.workdir.symm, fun other => ?_⟩
  by_cases hw : ∃ piece ∈ pieces, piece.Writes place other
  · obtain ⟨piece, hp, hbody, rfl⟩ := hw
    obtain ⟨body, hbody⟩ := Option.ne_none_iff_exists'.1 hbody
    rw [h.written hp hbody, k.written ((hm piece).1 hp) hbody]
  · have hw' : ¬∃ piece ∈ others, piece.Writes place other := by
      rintro ⟨piece, hp, hwrites⟩
      exact hw ⟨piece, (hm piece).2 hp, hwrites⟩
    by_cases hc : d.get? other = none ∧ ∃ piece ∈ pieces, piece.Crosses place other
    · obtain ⟨hnone, piece, hp, hcrosses⟩ := hc
      rw [h.crossed hp hcrosses hnone, k.crossed ((hm piece).1 hp) hcrosses hnone]
    · have hfree : d.get? other ≠ none ∨ ∀ piece ∈ pieces, ¬piece.Crosses place other := by
        by_cases hnone : d.get? other = none
        · exact .inr fun piece hp hcrosses => hc ⟨hnone, piece, hp, hcrosses⟩
        · exact .inl hnone
      rw [h.kept (fun piece hp hwrites => hw ⟨piece, hp, hwrites⟩) hfree,
        k.kept (fun piece hp hwrites => hw' ⟨piece, hp, hwrites⟩)
          (hfree.imp_right fun hall piece hp => hall piece ((hm piece).2 hp))]

theorem Layout.front (h : Layout d place pieces d') (hapart : ∀ p ∈ pieces, p.Apart piece)
    (hcross : piece.Crosses place other) : d'.get? other = d.get? other ∨
      d.get? other = none ∧ d'.get? other = some .directory := by
  by_cases hc : d.get? other = none ∧ ∃ p ∈ pieces, p.Crosses place other
  · obtain ⟨hnone, p, hp, hcrosses⟩ := hc
    exact .inr ⟨hnone, h.crossed hp hcrosses hnone⟩
  · refine .inl (h.kept ?_ ?_)
    · rintro p hp ⟨-, hother⟩
      obtain ⟨front, back, hnames, -, -, rfl⟩ := hcross
      have hsame := List.append_cancel_left hother
      exact (hapart p hp).1 ⟨back, by rw [← hsame, hnames]⟩
    · by_cases hnone : d.get? other = none
      · exact .inr fun p hp hcrosses => hc ⟨hnone, p, hp, hcrosses⟩
      · exact .inl hnone

theorem Layout.own (h : Layout d place pieces d') (hapart : ∀ p ∈ pieces, p.Apart piece) :
    d'.get? (place ++ piece.names) = d.get? (place ++ piece.names) := by
  apply h.kept
  · rintro p hp ⟨-, hother⟩
    have hsame := List.append_cancel_left hother
    exact (hapart p hp).1 ⟨[], by rw [List.append_nil, hsame]⟩
  · refine .inr fun p hp hcrosses => ?_
    obtain ⟨front, back, hnames, -, -, hother⟩ := hcrosses
    have hsame := List.append_cancel_left hother
    exact (hapart p hp).2 ⟨back, by rw [hsame, hnames]⟩

theorem Layout.outside (h : Layout d place pieces d') (ho : ¬place <+: other) :
    d'.get? other = d.get? other := by
  apply h.kept
  · rintro p - ⟨-, rfl⟩
    exact ho (List.prefix_append _ _)
  · refine .inr ?_
    rintro p - ⟨front, back, -, -, -, rfl⟩
    exact ho (List.prefix_append _ _)

theorem Layout.passable_iff (h : Layout d place pieces d')
    (hapart : ∀ p ∈ pieces, p.Apart piece) (hnames : piece.names = before ++ [name]) :
    d'.Passable place before ↔ d.Passable place before := by
  have hfront : ∀ {front back}, before = front ++ back → front ≠ [] →
      piece.Crosses place (place ++ front) := by
    rintro front back rfl hne
    exact ⟨front, back ++ [name], by simp [hnames], hne, by simp, rfl⟩
  constructor
  · intro hpass
    apply passable_of_fronts
    rintro front back hsplit hne
    rcases h.front hapart (hfront hsplit hne) with hsame | ⟨hnone, -⟩
    · rw [← hsame]
      exact hpass.front hsplit hne
    · exact .inl hnone
  · intro hpass
    apply passable_of_fronts
    rintro front back hsplit hne
    rcases h.front hapart (hfront hsplit hne) with hsame | ⟨-, hdir⟩
    · rw [hsame]
      exact hpass.front hsplit hne
    · exact .inr hdir

theorem Layout.blocked (h : Layout d place pieces d')
    (hthere : ∀ {other}, Piece.Crosses ⟨names, none⟩ place other → d.get? other ≠ none) :
    Layout d place (⟨names, none⟩ :: pieces) d' := by
  refine ⟨h.workdir, ?_, ?_, ?_⟩
  · intro p body hp hbody
    rcases List.mem_cons.1 hp with rfl | hp
    · simp at hbody
    · exact h.written hp hbody
  · intro p other hp hcross hnone
    rcases List.mem_cons.1 hp with rfl | hp
    · exact absurd hnone (hthere hcross)
    · exact h.crossed hp hcross hnone
  · intro other hwrites hfree
    rw [List.forall_mem_cons] at hwrites
    refine h.kept hwrites.2 (hfree.imp_right fun hnot => ?_)
    exact fun p hp => hnot p (List.mem_cons_of_mem _ hp)

/-- The directories on the way to one more piece. -/
theorem Layout.laid (h : Layout d place pieces d') (hnames : names = before ++ [name])
    (hlaid : Laid d' place before e) : Layout d place (⟨names, none⟩ :: pieces) e := by
  refine ⟨hlaid.adds.workdir.trans h.workdir, ?_, ?_, ?_⟩
  · intro p body hp hbody
    rcases List.mem_cons.1 hp with rfl | hp
    · simp at hbody
    · exact hlaid.adds.kept (h.written hp hbody)
  · intro p other hp hcross hnone
    rcases List.mem_cons.1 hp with rfl | hp
    · obtain ⟨front, back, hsplit, hfront, hback, rfl⟩ := hcross
      obtain ⟨middle, last, rfl⟩ := exists_snoc hback
      rw [hnames, ← List.append_assoc] at hsplit
      obtain ⟨rfl, -⟩ := List.append_singleton_inj.1 hsplit
      exact hlaid.paved.front hfront
    · exact hlaid.adds.kept (h.crossed hp hcross hnone)
  · intro other hwrites hfree
    rw [List.forall_mem_cons] at hwrites
    have hsame : d'.get? other = d.get? other := by
      apply h.kept hwrites.2
      rcases hfree with hsome | hnot
      · exact .inl hsome
      · exact .inr fun p hp => hnot p (List.mem_cons_of_mem _ hp)
    cases hd' : d'.get? other with
    | some entry => rw [hlaid.adds.kept hd', ← hsame, hd']
    | none =>
      by_contra hnew
      rw [← hsame, hd'] at hnew
      -- what was made lies on the way of the new piece
      obtain ⟨front, back, rfl, hfront, rfl⟩ := hlaid.along hd' hnew
      rcases hfree with hsome | hnot
      · exact hsome (hsame ▸ hd')
      · exact hnot _ List.mem_cons_self
          ⟨front, back ++ [name], by simp [hnames], hfront, by simp, rfl⟩

/-- The file at the end of the way. -/
theorem Layout.put {body : ByteArray} (h : Layout d place (⟨names, none⟩ :: pieces) e)
    (hapart : ∀ p ∈ pieces, p.Apart ⟨names, some body⟩) (hne : names ≠ []) :
    Layout d place (⟨names, some body⟩ :: pieces) (e.put (place ++ names) (.file body)) := by
  refine ⟨h.workdir, ?_, ?_, ?_⟩
  · intro p other hp hbody
    rcases List.mem_cons.1 hp with rfl | hp
    · obtain rfl := Option.some.inj hbody
      exact get?_put_self (by simp [hne]) _
    · rw [get?_put_of_ne]
      · exact h.written (List.mem_cons_of_mem _ hp) hbody
      · intro hother
        have hsame := List.append_cancel_left hother
        exact (hapart p hp).1 ⟨[], by rw [List.append_nil, hsame]⟩
  · intro p other hp hcross hnone
    rw [get?_put_of_ne]
    · rcases List.mem_cons.1 hp with rfl | hp
      · exact h.crossed List.mem_cons_self hcross hnone
      · exact h.crossed (List.mem_cons_of_mem _ hp) hcross hnone
    · rintro rfl
      obtain ⟨front, back, hsplit, -, hback, hother⟩ := hcross
      have hsame := List.append_cancel_left hother
      rcases List.mem_cons.1 hp with rfl | hp
      · rw [hsame] at hsplit
        exact hback (by simpa using hsplit)
      · exact (hapart p hp).2 ⟨back, by rw [hsame, hsplit]⟩
  · intro other hwrites hfree
    rw [List.forall_mem_cons] at hwrites
    have hother : other ≠ place ++ names := fun he => hwrites.1 ⟨by simp, he⟩
    rw [get?_put_of_ne hother]
    apply h.kept
    · rw [List.forall_mem_cons]
      exact ⟨fun hw => hw.1 rfl, hwrites.2⟩
    · refine hfree.imp_right fun hnot => ?_
      rw [List.forall_mem_cons] at hnot ⊢
      exact hnot

/-- A path lies in the directory of some names below the root. Its own last segment does not matter,
so a name can stand in for it. -/
structure Seat (root target : Path) (before : List Text) : Prop where
  front : AllNames before
  parent : ∃ name, isName name ∧
    target.parent = (ofSegments (root.base ++ (before ++ [name]))).parent

theorem Seat.parent_eq {target : Path} (h : Seat root target before) (hne : before ≠ []) :
    target.parent = some (ofSegments (root.base ++ before)) := by
  obtain ⟨name, hname, hparent⟩ := h.parent
  rw [hparent, parent_below (by simp [h.front, hname]) hne]

theorem Seat.roomy {target : Path} {entry : Entry} (h : Seat root target [])
    (hr : d.resolve root = .ok place) (he : d.get? place = some entry) : d.Roomy target := by
  obtain ⟨name, hname, hparent⟩ := h.parent
  exact (roomy_of_resolve hr he hname).of_parent hparent

theorem Ground.roomy_seat {target : Path} (ground : d.Ground root place)
    (h : Seat root target []) : d.Roomy target := by
  obtain ⟨name, hname, hparent⟩ := h.parent
  exact (ground.roomy hname).of_parent hparent

/-- What a disk must be like for a piece: nothing but directories on its way and no directory in its
place. A piece without a file needs no more than room for its target, if that is there already. -/
inductive Fits (d : Disk) (root target : Path) (place : Place) (piece : Piece) : Prop where
  | way {before : List Text} {name : Text} (names : piece.names = before ++ [name])
      (seat : Seat root target before) (ground : d.Ground root place) (passable : d.Passable place before)
      (short : ∀ n ∈ before, n.length ≤ nameLimit)
      (spelled : before ≠ [] → spellingFault (ofSegments (root.base ++ before)) = none)
      (room : piece.body ≠ none → name.length ≤ nameLimit ∧
        spellingFault (ofSegments (root.base ++ (before ++ [name]))) = none ∧
        (d.get? (place ++ (before ++ [name])) = none ∨
          ∃ old, d.get? (place ++ (before ++ [name])) = some (.file old)))
  | there (roomy : d.Roomy target) (body : piece.body = none)

end Disk

namespace Check

open CheckM

variable {p : Path} {w w' : World}

theorem ensureDirectory_exists {u : Unit} (h : ensureDirectory p w = .ok u w') (hp : p.text ≠ []) :
    w'.disk.pathExists p := by
  rcases ensureDirectory_eq_ok.1 h with ⟨he, rfl⟩ | ⟨disk, -, hm, rfl⟩
  · exact he
  · obtain ⟨found, hr, hd⟩ := Disk.isDirectory_iff.1 (Disk.makeDirectories_isDirectory hp hm)
    exact Disk.pathExists_iff.2 ⟨found, _, hr, hd⟩

theorem ensureDirectory_tree {u : Unit} (ht : w.disk.Tree) (h : ensureDirectory p w = .ok u w') :
    w'.disk.Tree := by
  rcases ensureDirectory_eq_ok.1 h with ⟨-, rfl⟩ | ⟨disk, -, hm, rfl⟩
  · exact ht
  · have hlineage := ht.makeLineage p.lineage
    rw [← Disk.makeDirectories, hm] at hlineage
    exact hlineage

end Check

namespace Compilation

open CheckM

variable {root target : Path} {compiler : Compiler} {extension : Text} {w w' : World}
  {place : Place} {before : List Text} {done done' : Compilation} {a : Attempt}
  {attempts : List Attempt}

/-- Room was made along directories, or a file was taken for the directory. -/
theorem makeRoom_cases (ground : w.disk.Ground root place) (seat : Disk.Seat root target before)
    (h : makeRoom target w = .ok () w') :
    (w.disk.Laid place before w'.disk ∧
      (before ≠ [] → Disk.spellingFault (ofSegments (root.base ++ before)) = none)) ∨
    before ≠ [] ∧ w' = w ∧
      Disk.spellingFault (ofSegments (root.base ++ before)) = none ∧
      ∃ body, w.disk.get? (place ++ before) = some (.file body) := by
  have hn := seat.front
  by_cases hne : before = []
  · subst hne
    have hsame := (makeRoom_of_roomy (ground.roomy_seat seat)).symm.trans h
    obtain ⟨-, rfl⟩ := EStateM.Result.ok.inj hsame
    exact .inl ⟨.refl trivial, fun hnil => absurd rfl hnil⟩
  · rw [makeRoom, seat.parent_eq hne] at h
    rcases Check.ensureDirectory_eq_ok.1 h with ⟨hthere, rfl⟩ | ⟨disk, -, hmade, rfl⟩
    · obtain ⟨found, entry, hr, he⟩ := Disk.pathExists_iff.1 hthere
      obtain ⟨hspell, hwalk⟩ := (Disk.resolve_below ground hn hne).1 hr
      obtain rfl := Disk.descend_names hn hwalk
      cases entry with
      | directory => exact .inl ⟨.refl (Disk.paved_of_descend hn hwalk he), fun _ => hspell⟩
      | file body => exact .inr ⟨hne, rfl, hspell, body, he⟩
      | link target => exact absurd he (ground.linkFree before target)
    · have htext : (ofSegments (root.base ++ before)).text ≠ [] := text_below_ne_nil hn hne
      have hdir := Disk.makeDirectories_isDirectory htext hmade
      have hadds : Disk.Adds w.disk disk := by
        have hlineage := Disk.makeLineage_adds (ofSegments (root.base ++ before)).lineage w.disk
        rwa [← Disk.makeDirectories, hmade] at hlineage
      have hground := hadds.grows.ground ground
      have hpaved := Disk.paved_of_isDirectory hground hn hne hdir
      have hlaid := Disk.makeDirectories_below ground hn hne (hadds.passable_of_paved hpaved)
      rw [hmade] at hlaid
      cases hlaid with
      | laid hlaid =>
        exact .inl ⟨hlaid, fun _ => ((Disk.isDirectory_below hground hn hne).1 hdir).1⟩

theorem makeRoom_ok (ground : w.disk.Ground root place) (seat : Disk.Seat root target before)
    (hpass : w.disk.Passable place before)
    (hshort : ∀ n ∈ before, n.length ≤ Disk.nameLimit)
    (hs : before ≠ [] → Disk.spellingFault (ofSegments (root.base ++ before)) = none) :
    ∃ w₁, makeRoom target w = .ok () w₁ ∧ w.disk.Laid place before w₁.disk := by
  have hn := seat.front
  by_cases hne : before = []
  · subst hne
    exact ⟨w, makeRoom_of_roomy (ground.roomy_seat seat), .refl trivial⟩
  · rw [makeRoom, seat.parent_eq hne]
    cases hthere : w.disk.pathExists (ofSegments (root.base ++ before)) with
    | true =>
      exact ⟨w, Check.ensureDirectory_of_exists hthere,
        .refl (Disk.paved_of_pathExists ground hn hne hpass hthere)⟩
    | false =>
      obtain ⟨d, hd, hlaid⟩ := Disk.makeDirectories_laid ground hn hne hpass hshort (hs hne)
      exact ⟨{ w with disk := d }, Check.ensureDirectory_eq_ok.2 (.inr ⟨d, hthere, hd, rfl⟩), hlaid⟩

theorem makeRoom_tree (ht : w.disk.Tree) (h : makeRoom target w = .ok () w') :
    w'.disk.Tree := by
  cases hp : target.parent with
  | some directory =>
    rw [makeRoom, hp] at h
    exact Check.ensureDirectory_tree ht h
  | none =>
    rw [makeRoom, hp] at h
    obtain ⟨-, rfl⟩ := pure_eq_ok.1 h
    exact ht

theorem Turn.tree (hc : compiler.KeepsDisk) (ht : w.disk.Tree)
    (t : Turn root compiler extension w done a done' w') : w'.disk.Tree := by
  obtain ⟨v, w₁, hv, hroom, hdisk⟩ := t.room
  have hasked : a.asked.disk.Tree := by
    rw [hdisk]
    exact makeRoom_tree (hv ▸ ht) hroom
  cases ha : a.answer with
  | ok code =>
    obtain ⟨artifact, hwrite, -⟩ := t.code hc ha
    exact hasked.write hwrite
  | error error =>
    obtain ⟨content, -, -, hsame⟩ := t.error hc ha
    exact hsame ▸ hasked

theorem Course.tree (hc : compiler.KeepsDisk) (ht : w.disk.Tree)
    (c : Course root compiler extension w done attempts done' w') : w'.disk.Tree := by
  induction c with
  | nil w done => exact ht
  | cons t _ ih => exact ih (t.tree hc ht)

theorem run_tree {sources : List Path} {outcome : Compilation} (hc : compiler.KeepsDisk)
    (ht : w.disk.Tree) (h : run root sources compiler extension w = .ok outcome w') :
    w'.disk.Tree := by
  obtain ⟨begun, attempts, finished, hbegun, -, course, hquiet⟩ := run_eq_ok h
  rw [hquiet.disk]
  refine course.tree hc (Check.ensureDirectory_tree ?_ hbegun)
  exact ht

end Compilation

end TemplateCheck
