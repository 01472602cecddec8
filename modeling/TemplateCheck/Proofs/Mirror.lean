import TemplateCheck.Artifact
import TemplateCheck.Bootstrap
import TemplateCheck.Proofs.Naming
import TemplateCheck.Proofs.Spelling

/-!
Below the root an artifact repeats the names of its template, with another extension on the last
one. So artifacts differ as soon as directories or stems do, and the artifact of one template is
above that of another exactly where a directory is named like an artifact.
-/
namespace TemplateCheck

namespace Path

variable {name extension : Text} {names segments : List Text}

theorem splitName_append {stem extension : Text} (hs : stem ≠ []) (he : '.' ∉ extension) :
    splitName (stem ++ '.' :: extension) = (stem, some extension) := by
  have hr : (stem ++ '.' :: extension).reverse = extension.reverse ++ '.' :: stem.reverse := by simp
  have hall : ∀ c ∈ extension.reverse, (c != '.') = true := by
    intro c hc
    simpa using fun h : c = '.' => he (h ▸ List.mem_reverse.1 hc)
  simp only [splitName, hr, List.takeWhile_append_of_pos hall, List.dropWhile_append_of_pos hall]
  simp [hs]

theorem eq_of_splitName {stem extension : Text} (h : splitName name = (stem, some extension)) :
    name = stem ++ '.' :: extension ∧ stem ≠ [] ∧ '.' ∉ extension := by
  have hname : name.reverse.takeWhile (· != '.') ++ name.reverse.dropWhile (· != '.') = name.reverse :=
    List.takeWhile_append_dropWhile
  simp only [splitName] at h
  split at h
  · simp at h
  · next hb =>
    obtain ⟨c, before, hd⟩ : ∃ c before, name.reverse.dropWhile (· != '.') = c :: before := by
      cases hd : name.reverse.dropWhile (· != '.') with
      | nil => simp [hd] at hb
      | cons c before => exact ⟨c, before, rfl⟩
    have hc : c = '.' := by
      have := List.head_dropWhile_not (· != '.') (show name.reverse.dropWhile (· != '.') ≠ [] by simp [hd])
      simpa [hd] using this
    simp only [hd, List.drop_succ_cons, List.drop_zero, Prod.mk.injEq, Option.some.injEq] at h
    obtain ⟨rfl, rfl⟩ := h
    refine ⟨?_, by simpa [hd] using hb, ?_⟩
    · rw [hd, hc] at hname
      have := congrArg List.reverse hname
      simpa using this.symm
    · intro hm
      have hall := List.all_takeWhile (p := (· != '.')) (l := name.reverse)
      simpa using List.all_eq_true.1 hall _ (List.mem_reverse.1 hm)

theorem stem_append {stem' extension : Text} (hs : stem' ≠ []) (he : '.' ∉ extension) :
    stem (stem' ++ '.' :: extension) = stem' := by
  simp [stem, splitName_append hs he]

theorem stem_ne_nil (h : name ≠ []) : stem name ≠ [] := by
  simp only [stem, splitName]
  split
  · exact h
  · next hb => simpa using hb

theorem mem_of_mem_stem {c : Char} (h : c ∈ stem name) : c ∈ name := by
  cases hs : splitName name with
  | mk first second =>
    cases second with
    | none =>
      simp only [stem, splitName] at h hs
      split at hs <;> simp_all
    | some extension =>
      rw [(eq_of_splitName hs).1]
      simpa [stem, hs] using Or.inl h

theorem bare_iff : Bootstrap.isBareExtension extension ↔
    extension ≠ [] ∧ '.' ∉ extension ∧ '/' ∉ extension ∧ '\\' ∉ extension := by
  simp only [Bootstrap.isBareExtension, Bool.and_eq_true, List.all_eq_true]
  constructor
  · rintro ⟨hne, h⟩
    refine ⟨by simpa using hne, ?_, ?_, ?_⟩ <;> intro hm <;> simpa using h _ hm
  · rintro ⟨hne, hd, hs, hb⟩
    refine ⟨by simpa using hne, fun c hc => ?_⟩
    simp only [bne_iff_ne, ne_eq]
    exact ⟨⟨fun h => hd (h ▸ hc), fun h => hs (h ▸ hc)⟩, fun h => hb (h ▸ hc)⟩

theorem bare_spelling (he : Bootstrap.isBareExtension extension) :
    Bootstrap.isBareExtension (Text.spelling extension) := by
  obtain ⟨hne, hdot, hslash, hbackslash⟩ := bare_iff.1 he
  refine bare_iff.2 ⟨fun h => hne (Text.spelling_injective h), ?_, ?_, ?_⟩
  · exact mt (Text.mem_of_mem_spelling (by decide)) hdot
  · exact mt (Text.mem_of_mem_spelling (by decide)) hslash
  · exact mt (Text.mem_of_mem_spelling (by decide)) hbackslash

theorem withSuffix_of_bare (he : Bootstrap.isBareExtension extension) (stem : Text) :
    withSuffix stem extension = stem ++ '.' :: Text.spelling extension := by
  simp [withSuffix, (bare_iff.1 he).1]

theorem isName_suffixed (hn : isName name) (hne : extension ≠ []) (hslash : '/' ∉ extension) :
    isName (stem name ++ '.' :: extension) := by
  have hstem := List.length_pos_of_ne_nil (stem_ne_nil (ne_nil_of_isName hn))
  have hext := List.length_pos_of_ne_nil hne
  have hlong : ∀ {short : Text}, short.length ≤ 2 → stem name ++ '.' :: extension ≠ short := by
    rintro short hl rfl
    simp at hl
    omega
  rw [isName_iff]
  refine ⟨hlong (by decide), hlong (by decide), hlong (by decide), ?_⟩
  intro h
  rcases List.mem_append.1 h with h | h
  · exact no_slash_of_isName hn (mem_of_mem_stem h)
  · simp only [List.mem_cons, Char.reduceEq, false_or] at h
    exact hslash h

theorem isName_withSuffix (hn : isName name) (he : Bootstrap.isBareExtension extension) :
    isName (withSuffix (stem name) extension) := by
  obtain ⟨hne, -, hslash, -⟩ := bare_iff.1 (bare_spelling he)
  rw [withSuffix_of_bare he]
  exact isName_suffixed hn hne hslash

theorem withExtension_ofSegments (h : ∀ s ∈ segments, '/' ∉ s) (hn : isName name)
    (extension : Text) : (ofSegments (segments ++ [name])).withExtension extension =
      ofSegments (segments ++ [withSuffix (stem name) extension]) := by
  have hs : (ofSegments (segments ++ [name])).segments = segments ++ [name] := by
    refine segments_ofSegments (fun s hs => ?_) (by simp)
    rcases List.mem_append.1 hs with hs | hs
    · exact h s hs
    · exact List.mem_singleton.1 hs ▸ no_slash_of_isName hn
  have hspoken : (ofSegments (segments ++ [name])).spokenSegments = name :: segments.reverse := by
    simp [spokenSegments, hs, not_silent_of_isName hn]
  rw [withExtension, hspoken]
  simp [ne_dotDot_of_isName hn, ofSegments]

end Path

namespace Artifact

open Path

variable {root source a b : Path} {extension : Text} {names : List Text}

def mirrored (names : List Text) (extension : Text) : List Text :=
  names.dropLast ++ (names.getLast?.map fun name => withSuffix (stem name) extension).toList

@[simp] theorem mirrored_snoc (before : List Text) (name extension : Text) :
    mirrored (before ++ [name]) extension = before ++ [withSuffix (stem name) extension] := by
  simp [mirrored]

theorem mirrored_ne_nil (hne : names ≠ []) : mirrored names extension ≠ [] := by
  obtain ⟨before, name, rfl⟩ := exists_snoc hne
  simp

theorem allNames_mirrored (h : AllNames names) (he : Bootstrap.isBareExtension extension) :
    AllNames (mirrored names extension) := by
  by_cases hne : names = []
  · simp [hne, mirrored]
  · obtain ⟨before, name, rfl⟩ := exists_snoc hne
    simp only [allNames_append, allNames_cons, allNames_nil, and_true, mirrored_snoc] at h ⊢
    exact ⟨h.1, isName_withSuffix h.2 he⟩

theorem mirrored_eq_iff {others : List Text} (hne : names ≠ []) (hne' : others ≠ [])
    (he : Bootstrap.isBareExtension extension) :
    mirrored names extension = mirrored others extension ↔
      names.dropLast = others.dropLast ∧ names.getLast?.map stem = others.getLast?.map stem := by
  obtain ⟨before, name, rfl⟩ := exists_snoc hne
  obtain ⟨before', name', rfl⟩ := exists_snoc hne'
  simp only [mirrored_snoc, withSuffix_of_bare he, List.dropLast_concat, List.getLast?_append,
    List.getLast?_singleton, Option.some_or, Option.map_some, Option.some.injEq]
  constructor
  · intro h
    obtain ⟨hb, hl⟩ := List.append_inj' h rfl
    exact ⟨hb, List.append_cancel_right (List.cons.inj hl).1⟩
  · rintro ⟨rfl, hs⟩
    rw [hs]

theorem allNames_names (p : Path) : AllNames (Artifact.names p) := by
  intro name hn
  simp only [Artifact.names, List.mem_filterMap] at hn
  obtain ⟨component, hc, hname⟩ := hn
  obtain rfl : component = .normal name := by
    cases component <;> simp_all [Component.normal?]
  have hmem : ∃ s ∈ p.segments, componentOf s = some (.normal name) := by
    simp only [components] at hc
    split at hc
    · simpa using hc
    · split at hc <;> simpa using hc
  obtain ⟨s, hs, he⟩ := hmem
  simp only [componentOf] at he
  split at he
  · simp at he
  · next hsilent =>
    split at he
    · simp at he
    · next hdots =>
      obtain rfl : s = name := by simpa using he
      have hslash := no_slash_of_mem_segments p s hs
      simp_all [isName]

theorem names_ofNames {place : List Text} (h : AllNames place) :
    Artifact.names (ofNames place) = place := by
  have hn : ∀ l : List Text, l.filterMap (Component.normal? ∘ Component.normal) = l := by
    intro l
    induction l with
    | nil => rfl
    | cons x l ih => simp [Component.normal?, ih]
  rw [Artifact.names, components_ofNames h, List.filterMap_cons_none rfl, List.filterMap_map, hn]

theorem path_eq (hne : Artifact.names source ≠ []) (root : Path) (extension : Text) :
    path root source extension =
      ofSegments (root.base ++ mirrored (Artifact.names source) extension) := by
  have h := allNames_names source
  rw [path, joinAll_eq h hne]
  obtain ⟨before, name, hb⟩ := exists_snoc hne
  rw [hb] at h ⊢
  simp only [allNames_append, allNames_cons] at h
  rw [← List.append_assoc, withExtension_ofSegments _ h.2.1, mirrored_snoc, List.append_assoc]
  intro s hs
  rcases List.mem_append.1 hs with hs | hs
  · exact no_slash_of_mem_base s hs
  · exact h.1.no_slash s hs

theorem components_path (hne : Artifact.names source ≠ [])
    (he : Bootstrap.isBareExtension extension) (root : Path) :
    (path root source extension).components =
      root.components ++ (mirrored (Artifact.names source) extension).map .normal := by
  rw [path_eq hne, components_below (allNames_mirrored (allNames_names source) he)
    (mirrored_ne_nil hne)]

theorem path_ofNames {place names : List Text} (hp : AllNames place) (hn : AllNames names)
    (hne : names ≠ []) (extension : Text) :
    path (ofNames place) (ofNames names) extension =
      ofNames (place ++ mirrored names extension) := by
  have hnames := names_ofNames hn
  rw [path_eq (by simpa [hnames] using hne), hnames, base_ofNames hp,
    ofNames_eq (by simp [mirrored_ne_nil hne])]
  simp

/-- The names that an artifact takes up below the root. Where there is no extension the last one can
come out as a dot, and then the names in front of it are taken up. -/
def reserved (extension : Text) (source : Path) : List Text :=
  let names := mirrored (Artifact.names source) extension
  if names.getLast? = some dot ∧ names ≠ [dot] then names.dropLast else names

/-- What can come out of a path for an artifact: names, a step up, or a directory itself. -/
inductive Shape (extension : Text) (source : Path) : Prop where
  | named (names : AllNames (mirrored (Artifact.names source) extension))
  | up {before : List Text} (names : AllNames before)
      (eq : mirrored (Artifact.names source) extension = before ++ [dotDot])
  | here {before : List Text} (names : AllNames before) (ne : before ≠ [])
      (eq : mirrored (Artifact.names source) extension = before ++ [dot])
  | root (eq : mirrored (Artifact.names source) extension = [dot])

theorem no_slash_withSuffix {stem : Text} (hs : '/' ∉ stem) (hx : validExtension extension) :
    '/' ∉ withSuffix stem extension := by
  have hx : '/' ∉ Text.spelling extension := by
    refine mt (Text.mem_of_mem_spelling (by decide)) ?_
    simpa [validExtension] using hx
  unfold withSuffix
  split
  · exact hs
  · simp [hs, hx]

theorem shape (hne : Artifact.names source ≠ []) (hx : validExtension extension) :
    Shape extension source := by
  have hall := allNames_names source
  obtain ⟨before, name, hnames⟩ := exists_snoc hne
  rw [hnames, allNames_append, allNames_cons] at hall
  obtain ⟨hbefore, hname, -⟩ := hall
  have hmirrored : mirrored (Artifact.names source) extension =
      before ++ [withSuffix (stem name) extension] := by
    rw [hnames, mirrored_snoc]
  by_cases hdot : withSuffix (stem name) extension = dot
  · rw [hdot] at hmirrored
    by_cases hb : before = []
    · exact .root (by simpa [hb] using hmirrored)
    · exact .here hbefore hb hmirrored
  by_cases hdots : withSuffix (stem name) extension = dotDot
  · exact .up hbefore (hdots ▸ hmirrored)
  have hnil : withSuffix (stem name) extension ≠ [] := by
    unfold withSuffix
    split
    · exact stem_ne_nil (ne_nil_of_isName hname)
    · simp
  have hslash := no_slash_withSuffix
    (fun h => no_slash_of_isName hname (mem_of_mem_stem h)) hx
  refine .named ?_
  rw [hmirrored]
  simp [hbefore, isName_iff.2 ⟨hnil, hdot, hdots, hslash⟩]

theorem reserved_of_last {before : List Text} {name : Text} (hd : name ≠ dot)
    (h : mirrored (Artifact.names source) extension = before ++ [name]) :
    reserved extension source = before ++ [name] := by
  simp [reserved, h, hd]

theorem reserved_of_names (h : AllNames (mirrored (Artifact.names source) extension)) :
    reserved extension source = mirrored (Artifact.names source) extension := by
  by_cases hne : mirrored (Artifact.names source) extension = []
  · simp [reserved, hne]
  · obtain ⟨before, name, heq⟩ := exists_snoc hne
    rw [heq, allNames_append, allNames_cons] at h
    rw [reserved_of_last (isName_iff.1 h.2.1).2.1 heq, heq]

theorem reserved_of_dot {before : List Text} (hne : before ≠ [])
    (h : mirrored (Artifact.names source) extension = before ++ [dot]) :
    reserved extension source = before := by
  simp [reserved, h, hne]

theorem reserved_of_root (h : mirrored (Artifact.names source) extension = [dot]) :
    reserved extension source = [dot] := by
  simp [reserved, h]

/-- What is taken up is what the path of the artifact spells, if that is not the root itself. -/
theorem Shape.components (h : Shape extension source) (hne : Artifact.names source ≠ [])
    (hroot : mirrored (Artifact.names source) extension ≠ [dot]) :
    Spoken (reserved extension source) ∧ reserved extension source ≠ [] ∧
      ∀ root, (path root source extension).components =
        root.components ++ (reserved extension source).filterMap componentOf := by
  cases h with
  | named names =>
    rw [reserved_of_names names]
    refine ⟨names.spoken, mirrored_ne_nil hne, fun root => ?_⟩
    rw [path_eq hne, components_spoken names.spoken (mirrored_ne_nil hne)]
  | @up before names eq =>
    rw [reserved_of_last (by decide) eq]
    have hspoken : Spoken (before ++ [dotDot]) := by
      simp only [Spoken, List.mem_append, List.mem_singleton]
      rintro s (hs | rfl)
      · exact names.spoken s hs
      · decide
    refine ⟨hspoken, by simp, fun root => ?_⟩
    rw [path_eq hne, eq, components_spoken hspoken (by simp)]
  | @here before names ne eq =>
    rw [reserved_of_dot ne eq]
    refine ⟨names.spoken, ne, fun root => ?_⟩
    rw [path_eq hne, eq, ← List.append_assoc, ← base_below names ne root,
      components_dot (text_below_ne_nil names ne), components_spoken names.spoken ne]
  | root eq => exact absurd eq hroot

variable {rootPlace : List Text}

def artifactPlace (rootPlace : Place) (extension : Text) (source : Path) : Place :=
  rootPlace ++ mirrored (Artifact.names source) extension

def Spelled (source : Path) : Prop := ∃ names, AllNames names ∧ names ≠ [] ∧ source = ofNames names

theorem path_of_spelled (hp : AllNames rootPlace) (hs : Spelled source) :
    path (ofNames rootPlace) source extension =
      ofNames (artifactPlace rootPlace extension source) := by
  obtain ⟨names, hn, hne, rfl⟩ := hs
  rw [path_ofNames hp hn hne, artifactPlace, names_ofNames hn]

theorem artifactPlace_names (hp : AllNames rootPlace) (hx : Bootstrap.isBareExtension extension)
    (hs : Spelled source) :
    AllNames (artifactPlace rootPlace extension source) ∧
      artifactPlace rootPlace extension source ≠ [] := by
  obtain ⟨names, hn, hne, rfl⟩ := hs
  rw [artifactPlace, names_ofNames hn]
  exact ⟨by simp [hp, allNames_mirrored hn hx], by simp [mirrored_ne_nil hne]⟩

theorem path_below_top (hp : AllNames rootPlace) (hx : Bootstrap.isBareExtension extension)
    (hs : Spelled source) : path (ofNames rootPlace) source extension =
      ofSegments ((ofNames []).base ++ artifactPlace rootPlace extension source) := by
  rw [path_of_spelled hp hs, ofNames_eq (artifactPlace_names hp hx hs).2, base_ofNames allNames_nil]
  rfl

theorem extension_ofNames {before : Place} {stem bytes : Text} (hs : stem ≠ []) (hd : '.' ∉ bytes)
    (hn : AllNames (before ++ [stem ++ '.' :: bytes])) :
    (ofNames (before ++ [stem ++ '.' :: bytes])).extension = some bytes := by
  rw [Path.extension, fileName_ofNames hn]
  simp [splitName_append hs hd]

theorem shownExtension_of_spelled (hp : AllNames rootPlace)
    (hx : Bootstrap.isBareExtension extension) (hs : Spelled source) :
    (ofNames (artifactPlace rootPlace extension source)).shownExtension = some extension := by
  have hall := (artifactPlace_names hp hx hs).1
  obtain ⟨names, hn, hne, rfl⟩ := hs
  obtain ⟨before, name, rfl⟩ := exists_snoc hne
  have hname : isName name := hn name (by simp)
  rw [artifactPlace, names_ofNames hn, mirrored_snoc, ← List.append_assoc, withSuffix_of_bare hx]
    at hall ⊢
  have hdot := (bare_iff.1 (bare_spelling hx)).2.1
  rw [shownExtension, extension_ofNames (stem_ne_nil (ne_nil_of_isName hname)) hdot hall]
  exact congrArg some (display_ofText extension)

theorem same_path_iff (ha : Artifact.names a ≠ []) (hb : Artifact.names b ≠ [])
    (he : Bootstrap.isBareExtension extension) (root : Path) :
    (path root a extension).same (path root b extension) ↔
      (Artifact.names a).dropLast = (Artifact.names b).dropLast ∧
      (Artifact.names a).getLast?.map stem = (Artifact.names b).getLast?.map stem := by
  simp only [same, beq_iff_eq, components_path ha he, components_path hb he,
    List.append_cancel_left_eq]
  rw [List.map_inj_right (fun _ _ h => Component.normal.inj h), mirrored_eq_iff ha hb he]

end Artifact
end TemplateCheck
