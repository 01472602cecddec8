import TemplateCheck.Proofs.Making

/-!
A write follows the links at the end of a path and creates what the last of them points to, so the
entry need not stand where the path seems to say. Afterwards the path leads to the entry that was put,
and the canonical path of that entry leads there as well.
-/
namespace TemplateCheck.Disk

open Path

variable {d d' : Disk} {here place start : Place} {segments : List Text} {p : Path}
  {body : ByteArray} {budget : Nat}

/-- What is known when the last segment of a path is a name in a directory. -/
theorem approach_name {directory : Place} {name : Text}
    (h : d.approach budget start p = .ok (.name directory name false)) :
    ∃ before, p.segments = before ++ [name] ∧ isName name ∧ name.length ≤ nameLimit ∧
      d.follow budget (startOf start p) before = .ok directory ∧
      d.get? directory = some .directory := by
  obtain ⟨before, last, hs⟩ := exists_snoc (List.splitOn_ne_nil '/' p.text)
  change p.segments = before ++ [last] at hs
  have hslash : '/' ∉ last := no_slash_of_mem_segments p last (by simp [hs])
  have hopen := ends_open_iff hs
  unfold approach at h
  by_cases hlast : last = []
  · -- an open end is a slash, which asks for a directory, or nothing at all is spelled
    have htext := hopen.2 hlast
    simp only [Bool.or_eq_true] at htext
    rcases htext with hempty | hslash
    · have hnil : p.segments = [[]] := by
        rw [Path.segments, List.isEmpty_iff.1 hempty, List.splitOn_nil]
      simp [hnil] at h
    · split at h
      · simp at h
      · split at h
        · simp at h
        · simp only [hslash] at h
          split_ifs at h <;> simp at h
  · have hdrop : p.segments.reverse.dropWhile (· = []) = last :: before.reverse := by
      simp [hs, hlast]
    rw [hdrop] at h
    simp only [List.reverse_reverse] at h
    split at h
    · simp at h
    · next place hf =>
      split_ifs at h with hdir hdots hlong
      · exact absurd (Except.ok.inj h) (by simp)
      · obtain ⟨rfl, rfl, -⟩ := Goal.name.inj (Except.ok.inj h)
        refine ⟨before, hs, ?_, Nat.not_lt.1 hlong, hf, holdsDirectory_iff.1 (by simpa using hdir)⟩
        rw [not_or] at hdots
        exact isName_iff.2 ⟨hlast, hdots.1, hdots.2, hslash⟩

/-- A file is put where there was none or another one. On every disk that has grown from this one and
holds a file there, the path leads to it with the same number of links. -/
theorem writeFrom_target (hstart : AllNames start) (h : d.writeFrom body budget start p = .ok d') :
    ∃ place, place ≠ [] ∧ (d.get? place = none ∨ ∃ old, d.get? place = some (.file old)) ∧
      d' = d.put place (.file body) ∧
      ∀ {e : Disk} {held : ByteArray}, Grows d e → e.get? place = some (.file held) →
        e.follow budget (startOf start p) p.segments = .ok place := by
  -- once the directory is reached, only the look-up of the last name is left
  have hlast : ∀ {budget start p directory name}, AllNames start →
      d.approach budget start p = .ok (.name directory name false) →
      isName name ∧ name.length ≤ nameLimit ∧ AllNames directory ∧
        ∀ {e : Disk}, Grows d e → e.follow budget (startOf start p) p.segments =
          e.follow (d.linksLeft budget (startOf start p) p.segments.dropLast) directory [name] := by
    intro budget start p directory name hstart happroach
    obtain ⟨before, hs, hname, hshort, hf, hd⟩ := approach_name happroach
    have hslash : ∀ s ∈ before, '/' ∉ s := fun s hm =>
      no_slash_of_mem_segments p s (by simp [hs, hm])
    have hh := allNames_startOf hstart p
    refine ⟨hname, hshort, follow_names hh hslash hf, fun {e} g => ?_⟩
    rw [hs, List.dropLast_concat, ← g.linksLeft_eq hh hslash hf]
    exact follow_append_left hh hslash (g.follow_eq hh hslash hf) (g.directory hd) [name]
  have hfile : ∀ {budget directory name} {e : Disk} {held : ByteArray}, isName name →
      name.length ≤ nameLimit → e.get? (directory ++ [name]) = some (.file held) →
      e.follow budget directory [name] = .ok (directory ++ [name]) := by
    intro budget directory name e held hname hshort hheld
    refine follow_arrived ?_ budget
    rw [descend_name hname hshort, hheld]
    simp
  fun_induction d.writeFrom body budget start p with
  | case1 | case2 | case3 | case6 | case7 => simp at h
  | case4 budget start p directory name happroach hnone =>
    obtain ⟨hname, hshort, -, hfollow⟩ := hlast hstart happroach
    refine ⟨_, by simp, .inl hnone, (Except.ok.inj h).symm, fun g hheld => ?_⟩
    rw [hfollow g, hfile hname hshort hheld]
  | case5 budget start p directory name happroach old hold =>
    obtain ⟨hname, hshort, -, hfollow⟩ := hlast hstart happroach
    refine ⟨_, by simp, .inr ⟨old, hold⟩, (Except.ok.inj h).symm, fun g hheld => ?_⟩
    rw [hfollow g, hfile hname hshort hheld]
  | case8 budget start p directory name happroach target hlink hleft ih =>
    obtain ⟨hname, hshort, hdirectory, hfollow⟩ := hlast hstart happroach
    obtain ⟨place, hne, hfree, hput, hleads⟩ := ih hdirectory h
    refine ⟨place, hne, hfree, hput, fun {e held} g hheld => ?_⟩
    have hdescend : e.descend directory [name] = .atLink directory target [] := by
      rw [descend_name hname hshort, g.link.2 hlink]
    obtain ⟨left, hsucc⟩ := Nat.exists_eq_succ_of_ne_zero hleft
    have hleads := hleads g hheld
    rw [hsucc, Nat.succ_sub_one] at hleads
    rw [hfollow g, hsucc, follow_atLink_succ hdescend, List.append_nil, hleads]

/-- After a write the path leads to the file that was written. If there was a file before, the path
has led to it. -/
theorem write_target (h : d.write p body = .ok d') : ∃ place, place ≠ [] ∧
    (d.get? place = none ∨ d.resolve p = .ok place ∧ ∃ old, d.get? place = some (.file old)) ∧
    d' = d.put place (.file body) ∧ d'.resolve p = .ok place := by
  have g := write_grows h
  unfold write at h
  split at h
  · simp at h
  · next hs =>
    obtain ⟨place, hne, hfree, hput, hleads⟩ := writeFrom_target d.workdir_names h
    refine ⟨place, hne, ?_, hput, resolve_eq_ok.2 ⟨hs, ?_⟩⟩
    · rcases hfree with hnone | ⟨old, hold⟩
      · exact .inl hnone
      · exact .inr ⟨resolve_eq_ok.2 ⟨hs, hleads (.refl d) hold⟩, old, hold⟩
    · rw [g.workdir]
      exact hleads g (by rw [hput, get?_put_self hne])

theorem write_lands (h : d.write p body = .ok d') (hr : d'.resolve p = .ok place) :
    place ≠ [] ∧ d' = d.put place (.file body) := by
  obtain ⟨found, hne, -, hput, hfound⟩ := write_target h
  obtain rfl : place = found := Except.ok.inj (hr.symm.trans hfound)
  exact ⟨hne, hput⟩

/-- From a directory that is found from the top, a walk ends at something that is found from the top,
or in front of a link in such a directory. -/
theorem descend_standing (hh : AllNames here) (hp : d.Paved [] here)
    (hs : ∀ s ∈ segments, '/' ∉ s) :
    (∀ place, d.descend here segments = .arrived place → d.descend [] place = .arrived place) ∧
    ∀ directory target rest, d.descend here segments = .atLink directory target rest →
      d.Paved [] directory := by
  induction segments generalizing here with
  | nil =>
    have hfound := hp.descend hh
    simp only [descend_nil, Descent.arrived.injEq, forall_eq', reduceCtorEq, false_implies,
      implies_true, and_true]
    exact hfound
  | cons segment rest ih =>
    rw [List.forall_mem_cons] at hs
    rcases segment_cases hs.1 with hsil | rfl | ⟨hn, hl | hl⟩
    · simp only [descend_silent hsil]
      exact ih hh hp hs.2
    · simp only [descend_dotDot]
      have hfront : here = here.dropLast ++ here.drop (here.length - 1) := by
        rw [List.dropLast_eq_take, List.take_append_drop]
      rw [hfront] at hp hh
      exact ih (allNames_append.1 hh).1 (paved_append.1 hp).1 hs.2
    · simp [descend_tooLong hn hl]
    · simp only [descend_name hn hl]
      cases he : d.get? (here ++ [segment]) with
      | none => simp
      | some entry =>
        cases entry with
        | directory =>
          have hnext : d.Paved [] (here ++ [segment]) := paved_append.2 ⟨hp, ⟨hl, he⟩, trivial⟩
          exact ih (by simp [hh, hn]) hnext hs.2
        | link target =>
          simp only [reduceCtorEq, false_implies, implies_true, true_and]
          intro directory target' rest' hlink
          exact (Descent.atLink.inj hlink).1 ▸ hp
        | file body =>
          have hfound : d.descend [] (here ++ [segment]) = .arrived (here ++ [segment]) := by
            rw [descend_append hh.no_slash (hp.descend hh) (hp.directory (get?_root d)),
              List.nil_append, descend_name hn hl, he]
            simp
          by_cases hr : rest = []
          · simp [hr, hfound]
          · simp [hr]

/-- The canonical path of whatever a path leads to leads there too, if it is not too long and the
working directory is there. -/
theorem resolve_canonical (hw : d.Paved [] d.workdir) (h : d.resolve p = .ok place)
    (hs : spellingFault (ofNames place) = none) : d.resolve (ofNames place) = .ok place := by
  have hn := resolve_names h
  have hstart : ∀ {directory : Place} (q : Path), d.Paved [] directory →
      d.Paved [] (startOf directory q) := by
    intro directory q hd
    unfold startOf
    split
    · trivial
    · exact hd
  have hfound : d.descend [] place = .arrived place := by
    refine follow_induction (P := fun _ here _ => d.Paved [] here → d.descend [] place = .arrived place)
      ?_ ?_ (allNames_startOf d.workdir_names p) (no_slash_of_mem_segments p) (resolve_eq_ok.1 h).2
      (hstart p hw)
    · intro _ here segments hh hs harrived _ hp
      exact (descend_standing hh hp hs).1 place harrived
    · intro _ here segments directory target rest hh hs hlink ih hp
      exact ih (hstart target ((descend_standing hh hp hs).2 _ _ _ hlink))
  refine resolve_eq_ok.2 ⟨hs, follow_arrived ?_ _⟩
  have hroot : startOf d.workdir (ofNames place) = [] := by simp [startOf]
  rw [hroot]
  by_cases hne : place = []
  · subst hne
    rw [segments_root, descend_silent (by decide), descend_silent (by decide)]
    exact hfound
  · rw [segments_ofNames hn hne, descend_silent (by decide)]
    exact hfound

end TemplateCheck.Disk
