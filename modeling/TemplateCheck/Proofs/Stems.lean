import TemplateCheck.Proofs.Blocking

/-!
The path of an artifact is the root, the names of the template, and on the last of them the extension
in place of the old one. Dots, double dots and slashes in the spelling of a template leave no trace, so
nothing leads out of the root. All that an artifact forgets is the extension of its template: two
templates have the same artifact exactly if they differ in nothing else.
-/
namespace TemplateCheck

namespace Path

/-- What a file name is without its extension. A dot at the very start separates nothing. -/
inductive StemOf : Text → Text → Prop where
  | whole {name : Text} (h : '.' ∉ name.tail) : StemOf name name
  | dotted {stem extension : Text} (hs : stem ≠ []) (he : '.' ∉ extension) :
      StemOf (stem ++ '.' :: extension) stem

variable {name stem' : Text}

theorem splitName_whole (h : '.' ∉ name.tail) : splitName name = (name, none) := by
  cases name with
  | nil => rfl
  | cons first rest =>
    have hall : ∀ c ∈ rest.reverse, (c != '.') = true := by
      intro c hc
      rw [bne_iff_ne]
      rintro rfl
      exact h (List.mem_reverse.1 hc)
    have hdrop : ((first :: rest).reverse.dropWhile (· != '.')).drop 1 = [] := by
      rw [List.reverse_cons, List.dropWhile_append_of_pos hall]
      by_cases hf : first = '.' <;> simp [hf]
    simp only [splitName, hdrop, List.isEmpty_nil, if_true]

theorem no_dot_of_splitName (h : (splitName name).2 = none) : '.' ∉ name.tail := by
  intro hdot
  obtain ⟨first, rest, rfl⟩ : ∃ first rest, name = first :: rest :=
    List.exists_cons_of_ne_nil (by rintro rfl; simp at hdot)
  -- the last dot of the name has something in front of it
  obtain ⟨back, front, hsplit, hback⟩ := List.eq_append_cons_of_mem (List.mem_reverse.2 hdot)
  have hname : first :: rest = (first :: front.reverse) ++ '.' :: back.reverse := by
    have hrest := congrArg List.reverse hsplit
    simpa using hrest
  rw [hname, splitName_append (by simp) (by simpa using hback)] at h
  simp at h

theorem stemOf_iff : StemOf name stem' ↔ stem name = stem' := by
  constructor
  · rintro (h | ⟨hs, he⟩)
    · simp [stem, splitName_whole h]
    · exact stem_append hs he
  · rintro rfl
    cases hs : splitName name with
    | mk first extension =>
      cases extension with
      | none =>
        have hdot : '.' ∉ name.tail := no_dot_of_splitName (by rw [hs])
        have hstem : stem name = name := by simp [stem, splitName_whole hdot]
        rw [hstem]
        exact .whole hdot
      | some extension =>
        obtain ⟨rfl, hfirst, he⟩ := eq_of_splitName hs
        rw [stem_append hfirst he]
        exact .dotted hfirst he

end Path

namespace Artifact

open Path

variable {a b source : Path} {extension : Text}

theorem locate_of_valid {ε : Type} (hx : '/' ∉ extension) (root source : Path) (w : World) :
    (locate root source extension : CheckM ε Path) w = .ok (path root source extension) w := by
  have hvalid : validExtension extension := by simpa [validExtension] using hx
  rw [locate, if_pos hvalid]
  rfl

theorem components_suffixed {parents : List Text} {name : Text}
    (hnames : names source = parents ++ [name]) (hne : extension ≠ []) (hx : '/' ∉ extension)
    (root : Path) : (path root source extension).components =
      root.components ++ (parents ++ [stem name ++ '.' :: Text.spelling extension]).map .normal := by
  have hall := allNames_names source
  rw [hnames, allNames_append, allNames_cons] at hall
  have hlast : withSuffix (stem name) extension = stem name ++ '.' :: Text.spelling extension := by
    simp [withSuffix, hne]
  have hne' : Text.spelling extension ≠ [] := fun h => hne (Text.spelling_injective h)
  have hx' : '/' ∉ Text.spelling extension := mt (Text.mem_of_mem_spelling (by decide)) hx
  have hartifact : AllNames (parents ++ [stem name ++ '.' :: Text.spelling extension]) := by
    simp [hall.1, isName_suffixed hall.2.1 hne' hx']
  rw [path_eq (by simp [hnames]), hnames, mirrored_snoc, hlast,
    components_below hartifact (by simp)]

/-- The names of two paths agree, up to the extension of the last one or its absence. -/
def AgreeToStem (a b : Path) : Prop :=
  ∃ parents name name' stem, names a = parents ++ [name] ∧ names b = parents ++ [name'] ∧
    StemOf name stem ∧ StemOf name' stem

theorem same_suffixed_iff (ha : names a ≠ []) (hb : names b ≠ []) (hne : extension ≠ [])
    (hx : '/' ∉ extension) (root : Path) :
    (path root a extension).same (path root b extension) ↔ AgreeToStem a b := by
  obtain ⟨parents, name, hpa⟩ := exists_snoc ha
  obtain ⟨parents', name', hpb⟩ := exists_snoc hb
  rw [same, beq_iff_eq, components_suffixed hpa hne hx, components_suffixed hpb hne hx,
    List.append_cancel_left_eq, List.map_inj_right fun _ _ h => Component.normal.inj h]
  constructor
  · intro h
    obtain ⟨rfl, hlast⟩ := List.append_inj' h rfl
    have hstem : stem name = stem name' := List.append_cancel_right (List.cons.inj hlast).1
    exact ⟨parents, name, name', stem name, hpa, hpb, stemOf_iff.2 rfl, stemOf_iff.2 hstem.symm⟩
  · rintro ⟨front, last, last', common, hfa, hfb, hl, hl'⟩
    rw [hpa] at hfa
    rw [hpb] at hfb
    obtain ⟨rfl, hlast⟩ := List.append_inj' hfa rfl
    obtain ⟨rfl, hlast'⟩ := List.append_inj' hfb rfl
    obtain rfl := (List.cons.inj hlast).1
    obtain rfl := (List.cons.inj hlast').1
    rw [stemOf_iff.1 hl, stemOf_iff.1 hl']

theorem artifacts_meet_by_stem (hne : extension ≠ []) (hx : '/' ∉ extension) (root : Path) :
    (∀ source, names source ≠ [] →
      (∀ w, (locate root source extension : Check Path) w = .ok (path root source extension) w) ∧
      root.Above (path root source extension) ∧
      ∃ parents name stem, names source = parents ++ [name] ∧ StemOf name stem ∧
        (path root source extension).components =
          root.components ++ (parents ++ [stem ++ '.' :: Text.spelling extension]).map .normal) ∧
    ∀ a b, names a ≠ [] → names b ≠ [] →
      ((path root a extension).same (path root b extension) ↔ AgreeToStem a b) := by
  constructor
  · intro source hs
    obtain ⟨parents, name, hnames⟩ := exists_snoc hs
    have hcomponents := components_suffixed hnames hne hx root
    refine ⟨locate_of_valid hx root source, ⟨_, by simp, hcomponents⟩, ?_⟩
    exact ⟨parents, name, stem name, hnames, stemOf_iff.2 rfl, hcomponents⟩
  · intro a b ha hb
    exact same_suffixed_iff ha hb hne hx root

/-- A hidden file behind dots and doubled slashes, and another one that differs in its extension. -/
theorem artifacts_meet_by_stem_hidden :
    ("x.php".toList ≠ [] ∧ '/' ∉ "x.php".toList) ∧
    names "../a//./.b.latte/" ≠ [] ∧ names "/a/.b" ≠ [] ∧
    (path "./out//" "../a//./.b.latte/" "x.php").same (path "./out//" "/a/.b" "x.php") ∧
    (path "./out//" "/a/.b" "x.php").components =
      [.current, .normal "out", .normal "a", .normal ".b.x.php"] := by
  obtain ⟨-, hmeet⟩ := @artifacts_meet_by_stem "x.php" (by decide) (by decide) "./out//"
  have hlatte : StemOf ".b.latte" ".b" := @StemOf.dotted ".b" "latte" (by decide) (by decide)
  have hbare : StemOf ".b" ".b" := .whole (by decide)
  have hagree : AgreeToStem "../a//./.b.latte/" "/a/.b" :=
    ⟨["a"], ".b.latte", ".b", ".b", by decide, by decide, hlatte, hbare⟩
  refine ⟨⟨by decide, by decide⟩, by decide, by decide, ?_, by decide⟩
  exact (hmeet _ _ (by decide) (by decide)).2 hagree

end Artifact

end TemplateCheck
