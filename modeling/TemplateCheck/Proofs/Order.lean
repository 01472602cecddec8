import Mathlib.Data.List.Perm.Basic
import TemplateCheck.Proofs.Account
import TemplateCheck.Proofs.Layout

/-!
Templates whose artifacts are not in each other's way can be compiled in any order, if the compiler
leaves the disk alone. Whether a template can have its piece is decided by the disk on which the
compilation begins, and so is what becomes of the template. So a compilation that succeeds in one order
succeeds in every other order, with the same disk, the same source map and the same part for each
template.
-/
namespace TemplateCheck

open CheckM Path

def Path.Apart (p q : Path) : Prop := ¬p.same q ∧ ¬p.Above q ∧ ¬q.Above p

theorem Path.apart_of_components {p q : Path} (h : ¬p.components <+: q.components)
    (h' : ¬q.components <+: p.components) : p.Apart q := by
  refine ⟨?_, ?_, ?_⟩
  · intro hsame
    rw [same, beq_iff_eq] at hsame
    exact h ⟨[], by rw [hsame, List.append_nil]⟩
  · intro habove
    obtain ⟨rest, -, hrest⟩ := habove
    exact h ⟨rest, hrest.symm⟩
  · intro habove
    obtain ⟨rest, -, hrest⟩ := habove
    exact h' ⟨rest, hrest.symm⟩

namespace Compilation

open Artifact

/-- What a template asks for below the root, once the compiler has answered. -/
def pieceOf (extension : Text) (source : Path) (answer : Except CompileError Text) : Disk.Piece :=
  ⟨reserved extension source, answer.toOption.map Text.bytes⟩

def partOf (d : Disk) (place : Place) (extension : Text) (source : Path) :
    Except CompileError Text → Except Record Path
  | .ok _ => .ok (ofNames (place ++ mirrored (names source) extension))
  | .error error => .error (recordOf error ((d.readText error.file).toOption.getD []))

def add (done : Compilation) (source : Path) : Except Record Path → Compilation
  | .ok artifact => done.addArtifact artifact source
  | .error record => done.addRecord record

/-- A compilation put together from what became of its templates. -/
def assemble (parts : List (Path × Except Record Path)) : Compilation :=
  parts.foldl (fun done part => done.add part.1 part.2) {}

end Compilation

/-- Two disks that differ at most at a place and below it. -/
structure Disk.SameOutside (place : Place) (d d' : Disk) : Prop where
  workdir : d'.workdir = d.workdir
  entry : ∀ other, ¬place <+: other → d'.get? other = d.get? other

/-- A compiler that leaves the disk alone and goes by nothing below a place. The files that it blames
are found outside of the place, and are found there from the start. -/
structure Compiler.Independent (compiler : Compiler) (sources : List Path) (place : Place)
    (d : Disk) : Prop where
  keepsDisk : compiler.KeepsDisk
  answers : ∀ {source v v' answer v₁}, source ∈ sources → d.SameOutside place v.disk →
    d.SameOutside place v'.disk → compiler.compile source v = .ok answer v₁ →
    ∃ v₂, compiler.compile source v' = .ok answer v₂
  blames : ∀ {source v error v₁}, source ∈ sources → d.SameOutside place v.disk →
    compiler.compile source v = .ok (.error error) v₁ →
    ∃ found body, d.resolve error.file = .ok found ∧ d.get? found = some (.file body) ∧
      ¬place <+: found

namespace Compilation

open Artifact

variable {root source : Path} {compiler : Compiler} {extension : Text} {w w' : World}
  {place : Place} {done done' outcome : Compilation} {a : Attempt} {attempts : List Attempt}
  {d d' : Disk} {pieces : List Disk.Piece} {answer : Except CompileError Text}
  {sources sources' : List Path}

theorem apart_pieces {p q : Path} (hx : validExtension extension) (hp : names p ≠ [])
    (hq : names q ≠ []) (h : (path root p extension).Apart (path root q extension))
    (x y : Except CompileError Text) : (pieceOf extension p x).Apart (pieceOf extension q y) := by
  -- a common front is either everything, or puts one path above the other
  have hfront : ∀ {s t}, names s ≠ [] → names t ≠ [] →
      reserved extension s <+: reserved extension t →
      (path root s extension).same (path root t extension) ∨
        (path root s extension).Above (path root t extension) := by
    rintro s t hs ht ⟨rest, hrest⟩
    by_cases hdot : mirrored (names t) extension = [dot]
    · -- nothing but the root itself is in front of the root
      have hroot : mirrored (names s) extension = [dot] := by
        by_contra hne
        obtain ⟨hspoken, hnil, -⟩ := (shape hs hx).components hs hne
        obtain ⟨first, others, hfirst⟩ := List.exists_cons_of_ne_nil hnil
        rw [reserved_of_root hdot, hfirst] at hrest
        obtain rfl : first = dot := (List.cons.inj hrest).1
        have hsilent := (hspoken dot (by simp [hfirst])).1
        simp [silent] at hsilent
      left
      rw [path_eq hs, path_eq ht, hroot, hdot]
      simp [same]
    · obtain ⟨hspoken, -, hcomponents⟩ := (shape ht hx).components ht hdot
      have hroot : mirrored (names s) extension ≠ [dot] := by
        intro hroot
        have hsilent := (hspoken dot (by simp [← hrest, reserved_of_root hroot])).1
        simp [silent] at hsilent
      obtain ⟨-, -, hcomponents'⟩ := (shape hs hx).components hs hroot
      rw [same, Above, hcomponents root, hcomponents' root, ← hrest, List.filterMap_append,
        ← List.append_assoc]
      by_cases hnil : rest = []
      · simp [hnil]
      · right
        refine ⟨_, ?_, rfl⟩
        obtain ⟨first, others, rfl⟩ := List.exists_cons_of_ne_nil hnil
        obtain ⟨component, hfirst⟩ := Option.ne_none_iff_exists'.1
          (componentOf_ne_none (hspoken first (by simp [← hrest])).1)
        simp [hfirst]
  constructor
  · intro hprefix
    rcases hfront hp hq hprefix with hsame | habove
    · exact h.1 hsame
    · exact h.2.1 habove
  · intro hprefix
    rcases hfront hq hp hprefix with hsame | habove
    · have hsymm : (path root p extension).same (path root q extension) := by
        simp only [same, beq_iff_eq] at hsame ⊢
        exact hsame.symm
      exact h.1 hsymm
    · exact h.2.2 habove

theorem allNames_of_write {body : ByteArray} (hne : names source ≠ [])
    (hx : validExtension extension) (h : d.write (path root source extension) body = .ok d') :
    AllNames (mirrored (names source) extension) := by
  have hdots : ∀ {before last}, AllNames before → (last = dot ∨ last = dotDot) →
      mirrored (names source) extension ≠ before ++ [last] := by
    intro before last hb hl heq
    have hslash : ∀ s ∈ before ++ [last], '/' ∉ s := by
      simp only [List.mem_append, List.mem_singleton]
      rintro s (hs | rfl)
      · exact hb.no_slash s hs
      · rcases hl with rfl | rfl <;> decide
    have hsegments := segments_after hslash (by simp) root
    rw [← heq, ← path_eq hne, heq, ← List.append_assoc] at hsegments
    exact Disk.write_dots hsegments hl h
  cases shape hne hx with
  | named names => exact names
  | up names eq => exact absurd eq (hdots names (.inr rfl))
  | here names _ eq => exact absurd eq (hdots names (.inl rfl))
  | root eq => exact absurd eq (hdots allNames_nil (.inl rfl))

/-- The artifact goes to a directory below the root, if not to the root itself. -/
theorem exists_seat (root : Path) (hne : names source ≠ []) (hx : validExtension extension)
    (hroot : mirrored (names source) extension ≠ [dot]) :
    ∃ before name, reserved extension source = before ++ [name] ∧
      Disk.Seat root (path root source extension) before := by
  cases shape hne hx with
  | named names =>
    have hall := names
    obtain ⟨before, name, hsplit⟩ : ∃ before name,
        mirrored (Artifact.names source) extension = before ++ [name] :=
      exists_snoc (mirrored_ne_nil hne)
    rw [hsplit, allNames_append, allNames_cons] at hall
    refine ⟨before, name, (reserved_of_names names).trans hsplit, hall.1, name, hall.2.1, ?_⟩
    rw [path_eq hne, hsplit]
  | @up before names eq =>
    refine ⟨before, dotDot, reserved_of_last (by decide) eq, names, "x", by decide, ?_⟩
    rw [path_eq hne, eq]
    exact parent_swap names (by decide) (by decide) root
  | @here before names ne eq =>
    have hparent := parent_dot (text_below_ne_nil (p := root) names ne)
    rw [base_below names ne, List.append_assoc, ← eq, ← path_eq hne] at hparent
    obtain ⟨front, last, rfl⟩ := exists_snoc ne
    have hall := names
    rw [allNames_append, allNames_cons] at hall
    exact ⟨front, last, reserved_of_dot ne eq, hall.1, last, hall.2.1, hparent⟩
  | root eq => exact absurd eq hroot

theorem roomy_of_dot (hd : d.Tree) (hl : d.Leads root place) (hne : names source ≠ [])
    (hroot : mirrored (names source) extension = [dot]) : d.Roomy (path root source extension) := by
  rw [path_eq hne, hroot]
  rcases hl with hr | ⟨htext, -⟩
  · exact (hd.roomy hr).of_parent (parent_dot (Disk.text_ne_nil_of_resolve hr))
  · obtain rfl : root = ⟨[]⟩ := congrArg Path.mk htext
    intro up hup
    obtain rfl : ⟨[]⟩ = up := Option.some.inj (hup.symm.trans (by decide)).symm
    exact .inl rfl

/-- The disk after some pieces. -/
structure Reached (d : Disk) (place : Place) (pieces : List Disk.Piece) (d' : Disk) : Prop where
  grows : d.Grows d'
  layout : d.Layout place pieces d'

theorem Reached.outside (h : Reached d place pieces d') : d.SameOutside place d' :=
  ⟨h.layout.workdir, fun _ ho => h.layout.outside ho⟩

theorem sameOutside_of_laid {e : Disk} {before : List Text} (h : d.SameOutside place d')
    (hlaid : d'.Laid place before e) : d.SameOutside place e := by
  refine ⟨hlaid.adds.workdir.trans h.workdir, fun other ho => ?_⟩
  rw [← h.entry other ho]
  cases he : d'.get? other with
  | some entry => exact hlaid.adds.kept he
  | none =>
    by_contra hnew
    obtain ⟨front, back, -, -, rfl⟩ := hlaid.along he hnew
    exact ho (List.prefix_append _ _)

/-- All that a template needs for its turn, whenever that comes. -/
structure Ready (d : Disk) (root : Path) (place : Place) (extension : Text) (compiler : Compiler)
    (source : Path) (answer : Except CompileError Text) : Prop where
  valid : validExtension extension
  fits : d.Fits root (path root source extension) place (pieceOf extension source answer)
  named : ∀ {code}, answer = .ok code → AllNames (mirrored (names source) extension)
  answers : ∀ {v}, d.SameOutside place v.disk → ∃ v₁, compiler.compile source v = .ok answer v₁
  readable : ∀ {error}, answer = .error error → ∃ content, d.readText error.file = .ok content

/-- What its turn comes to, seen from the disk at the start. -/
structure Lays (d : Disk) (place : Place) (extension : Text) (pieces : List Disk.Piece)
    (done : Compilation) (a : Attempt) (done' : Compilation) (d' : Disk) : Prop where
  reached : Reached d place (pieceOf extension a.source a.answer :: pieces) d'
  outcome : done' = done.add a.source (partOf d place extension a.source a.answer)

theorem readText_blamed {error : CompileError} (hc : compiler.Independent sources place d)
    (hs : source ∈ sources) (hcalled : compiler.compile source w = .ok (.error error) w')
    (hasked : d.SameOutside place w.disk) (hgrows : d.Grows w.disk) :
    w.disk.readText error.file = d.readText error.file := by
  obtain ⟨found, body, hr, hf, ho⟩ := hc.blames hs hasked hcalled
  have hbytes : w.disk.readBytes error.file = d.readBytes error.file := by
    rw [Disk.readBytes, Disk.readBytes, hgrows.resolve_eq hr, hr]
    simp only [hasked.entry found ho]
  rw [Disk.readText, Disk.readText, hbytes]

def Tells (d : Disk) (root : Path) (place : Place) (extension : Text) (compiler : Compiler)
    (pieces : List Disk.Piece) (done : Compilation) (a : Attempt) (done' : Compilation) (d' : Disk) :
    Prop :=
  Ready d root place extension compiler a.source a.answer ∧
    Lays d place extension pieces done a done' d'

theorem Turn.tells_of_error {error : CompileError} (hc : compiler.Independent sources place d)
    (hsource : a.source ∈ sources) (t : Turn root compiler extension w done a done' w')
    (ha : a.answer = .error error) (hr : Reached d place pieces w.disk)
    (hasked : d.SameOutside place a.asked.disk)
    (hfits : d.Fits root (path root a.source extension) place ⟨reserved extension a.source, none⟩)
    (hlayout : d.Layout place (⟨reserved extension a.source, none⟩ :: pieces) a.asked.disk) :
    Tells d root place extension compiler pieces done a done' w'.disk := by
  obtain ⟨content, hread, hdone, hdisk⟩ := t.error hc.keepsDisk ha
  have hgrows := hr.grows.trans (prepare_adds t.prepared).1.grows
  rw [readText_blamed hc hsource (ha ▸ t.called) hasked hgrows] at hread
  refine ⟨⟨prepare_valid t.prepared, ?_, ?_, fun hv => hc.answers hsource hasked hv t.called, ?_⟩,
    ⟨?_, ?_⟩, ?_⟩
  · rw [ha]
    exact hfits
  · intro code hcode
    simp [ha] at hcode
  · intro other ho
    obtain rfl := Except.error.inj (ha.symm.trans ho)
    exact ⟨content, hread⟩
  · rw [hdisk]
    exact hgrows
  · rw [ha, hdisk]
    exact hlayout
  · rw [ha, hdone]
    simp [partOf, add, hread, Except.toOption]

theorem Turn.tells_of_roomy (hc : compiler.Independent sources place d)
    (hr : Reached d place pieces w.disk) (hsource : a.source ∈ sources)
    (t : Turn root compiler extension w done a done' w')
    (hroomy : d.Roomy (path root a.source extension))
    (hthere : ∀ {other}, Disk.Piece.Crosses ⟨reserved extension a.source, none⟩ place other →
      d.get? other ≠ none)
    (hcode : ∀ code, a.answer ≠ .ok code) :
    Tells d root place extension compiler pieces done a done' w'.disk := by
  obtain ⟨v, w₁, hv, hroom, hasked⟩ := t.room
  have hsame : a.asked.disk = w.disk := by
    have hsame := (makeRoom_of_roomy (w := v) (hv ▸ hr.grows.roomy hroomy)).symm.trans hroom
    obtain ⟨-, rfl⟩ := EStateM.Result.ok.inj hsame
    exact hasked.trans hv
  cases ha : a.answer with
  | ok code => exact absurd ha (hcode code)
  | error error =>
    refine t.tells_of_error hc hsource ha hr (hsame ▸ hr.outside) (.there hroomy rfl) ?_
    rw [hsame]
    exact hr.layout.blocked hthere

/-- A turn for which directories were made. -/
theorem Turn.tells_of_laid {before : List Text} {name : Text}
    (hc : compiler.Independent sources place d) (ground : d.Ground root place)
    (hr : Reached d place pieces w.disk) (hsource : a.source ∈ sources)
    (hp : names a.source ≠ [])
    (hapart : ∀ p ∈ pieces, p.Apart (pieceOf extension a.source a.answer))
    (t : Turn root compiler extension w done a done' w')
    (hsplit : reserved extension a.source = before ++ [name])
    (seat : Disk.Seat root (path root a.source extension) before)
    (hlaid : w.disk.Laid place before a.asked.disk)
    (hspelled : before ≠ [] → Disk.spellingFault (ofSegments (root.base ++ before)) = none) :
    Tells d root place extension compiler pieces done a done' w'.disk := by
  have hvalid := prepare_valid t.prepared
  have hpass : d.Passable place before := by
    rw [← hr.layout.passable_iff hapart hsplit]
    exact hlaid.adds.passable_of_paved hlaid.paved
  have hasked := sameOutside_of_laid hr.outside hlaid
  have hdirs := hr.layout.laid hsplit hlaid
  cases ha : a.answer with
  | error error =>
    refine t.tells_of_error hc hsource ha hr hasked ?_ hdirs
    exact .way hsplit seat ground hpass hlaid.paved.short hspelled (fun hbody => absurd rfl hbody)
  | ok code =>
    obtain ⟨artifact, hwrite, hcanonical, hdone⟩ := t.code hc.keepsDisk ha
    have hnamed := allNames_of_write hp hvalid hwrite
    have hmirrored := (reserved_of_names hnamed).symm.trans hsplit
    have hall := hnamed
    have hpath := path_eq hp root extension
    rw [hmirrored] at hall hpath
    obtain ⟨hn, hlast⟩ := allNames_append.1 hall
    have hgrows := hr.grows.trans (t.grows hc.keepsDisk)
    have hground := (hr.grows.trans hlaid.adds.grows).ground ground
    rw [hpath] at hwrite hcanonical
    obtain ⟨hshort, hspell, hfree⟩ :=
      Disk.write_paved_inv hground hn (allNames_cons.1 hlast).1 hlaid.paved hwrite
    have hown := hr.layout.own hapart
    simp only [pieceOf, hsplit] at hown
    rw [hlaid.own, hown] at hfree
    refine ⟨⟨hvalid, ?_, fun _ => hnamed, fun hv => hc.answers hsource hasked hv t.called, ?_⟩,
      ⟨hgrows, ?_⟩, ?_⟩
    · exact .way hsplit seat ground hpass hlaid.paved.short hspelled fun _ => ⟨hshort, hspell, hfree⟩
    · intro error he
      simp [ha] at he
    · rw [Disk.write_below hground hall (by simp) hwrite, ← hsplit, ha]
      rw [ha] at hapart
      exact hdirs.put hapart (by simp [hsplit])
    · obtain ⟨found, hfound, rfl⟩ := Disk.canonicalize_eq_ok.1 hcanonical
      rw [Disk.resolve_below (hgrows.ground ground) hall (by simp)] at hfound
      rw [hdone, ha, Disk.descend_names hall hfound.2, ← hmirrored]
      rfl

/-- A turn that found a file where the directory of its artifact should be. -/
theorem Turn.tells_of_blocked {before : List Text} {name : Text} {old : ByteArray}
    (hc : compiler.Independent sources place d) (ht : d.Tree) (ground : d.Ground root place)
    (hr : Reached d place pieces w.disk) (hsource : a.source ∈ sources)
    (hp : names a.source ≠ [])
    (hapart : ∀ p ∈ pieces, p.Apart (pieceOf extension a.source a.answer))
    (t : Turn root compiler extension w done a done' w')
    (hsplit : reserved extension a.source = before ++ [name])
    (seat : Disk.Seat root (path root a.source extension) before) (hne : before ≠ [])
    (hspelled : Disk.spellingFault (ofSegments (root.base ++ before)) = none)
    (hold : w.disk.get? (place ++ before) = some (.file old)) :
    Tells d root place extension compiler pieces done a done' w'.disk := by
  have hfile : d.get? (place ++ before) = some (.file old) := by
    rcases hr.layout.front hapart ⟨before, [name], hsplit, hne, by simp, rfl⟩ with hkept | ⟨-, hdir⟩
    · rw [← hkept, hold]
    · rw [hdir] at hold
      simp at hold
  refine t.tells_of_roomy hc hr hsource ?_ ?_ ?_
  · intro up hup
    rw [seat.parent_eq hne] at hup
    obtain rfl := Option.some.inj hup
    refine .inr (Disk.pathExists_iff.2 ⟨place ++ before, _, ?_, hfile⟩)
    rw [Disk.resolve_below ground seat.front hne]
    exact ⟨hspelled, ht.descend hfile hne (by simp)⟩
  · -- all the directories on the way to that file are there
    rintro other ⟨front, back, hnames, -, hback, rfl⟩
    obtain ⟨middle, last, rfl⟩ := exists_snoc hback
    simp only [hsplit] at hnames
    rw [← List.append_assoc] at hnames
    obtain ⟨rfl, -⟩ := List.append_singleton_inj.1 hnames
    rw [← List.append_assoc] at hfile
    by_cases hmiddle : middle = []
    · rw [hmiddle, List.append_nil] at hfile
      simp [hfile]
    · simp [ht.directory_of_below hmiddle hfile]
  · intro code ha
    obtain ⟨artifact, hwrite, hcanonical, -⟩ := t.code hc.keepsDisk ha
    obtain ⟨found, hfound, -⟩ := Disk.canonicalize_eq_ok.1 hcanonical
    have hall := allNames_of_write hp (prepare_valid t.prepared) hwrite
    have hgrows := hr.grows.trans (t.grows hc.keepsDisk)
    rw [path_eq hp, Disk.resolve_below (hgrows.ground ground) hall (mirrored_ne_nil hp),
      ← reserved_of_names hall, hsplit] at hfound
    obtain ⟨old', hold'⟩ := hgrows.file hfile
    exact Disk.descend_past_file seat.front hne hold' (by simp) hfound.2

theorem Turn.tells_of_ground {before : List Text} {name : Text}
    (hc : compiler.Independent sources place d) (ht : d.Tree)
    (ground : d.Ground root place) (hr : Reached d place pieces w.disk)
    (hsource : a.source ∈ sources) (hp : names a.source ≠ [])
    (hapart : ∀ p ∈ pieces, p.Apart (pieceOf extension a.source a.answer))
    (hsplit : reserved extension a.source = before ++ [name])
    (seat : Disk.Seat root (path root a.source extension) before)
    (t : Turn root compiler extension w done a done' w') :
    Tells d root place extension compiler pieces done a done' w'.disk := by
  obtain ⟨v, w₁, hv, hroom, hasked⟩ := t.room
  have hground : v.disk.Ground root place := hv ▸ hr.grows.ground ground
  rcases makeRoom_cases hground seat hroom with ⟨hlaid, hspelled⟩ | ⟨hne, -, hs, old, hold⟩
  · rw [hv, ← hasked] at hlaid
    exact t.tells_of_laid hc ground hr hsource hp hapart hsplit seat hlaid hspelled
  · rw [hv] at hold
    exact t.tells_of_blocked hc ht ground hr hsource hp hapart hsplit seat hne hs hold

/-- Where the root is a file, nothing can be written, and room is only there beside the root. -/
theorem Turn.tells_of_file {before : List Text} {name : Text} {body : ByteArray}
    (hc : compiler.Independent sources place d) (hresolved : d.resolve root = .ok place)
    (hfile : d.get? place = some (.file body)) (ht : w.disk.Tree)
    (hr : Reached d place pieces w.disk) (hsource : a.source ∈ sources) (hp : names a.source ≠ [])
    (hsplit : reserved extension a.source = before ++ [name])
    (seat : Disk.Seat root (path root a.source extension) before)
    (t : Turn root compiler extension w done a done' w') :
    Tells d root place extension compiler pieces done a done' w'.disk := by
  -- behind the root no path leads anywhere, now or later
  have hstuck : ∀ {d' : Disk} {names : List Text} {found : Place}, d'.Tree → d.Grows d' →
      AllNames names → names ≠ [] → d'.resolve (ofSegments (root.base ++ names)) ≠ .ok found := by
    intro d' names found ht' hg hnames hne
    obtain ⟨body', hbody'⟩ := hg.file hfile
    exact ht'.resolve_past_file (hg.resolve_eq hresolved) hbody' hnames hne
  obtain ⟨v, w₁, hv, hroom, hasked⟩ := t.room
  have hgrows := hr.grows.trans (prepare_adds t.prepared).1.grows
  have htree : a.asked.disk.Tree := by
    rw [hasked]
    exact makeRoom_tree (hv ▸ ht) hroom
  have hempty : before = [] := by
    by_contra hne
    rw [makeRoom, seat.parent_eq hne] at hroom
    have hexists := Check.ensureDirectory_exists hroom (text_below_ne_nil seat.front hne)
    obtain ⟨found, -, hfound, -⟩ := Disk.pathExists_iff.1 hexists
    exact hstuck (hasked ▸ htree) (hasked ▸ hgrows) seat.front hne hfound
  subst hempty
  refine t.tells_of_roomy hc hr hsource (seat.roomy hresolved hfile) ?_ ?_
  · rw [hsplit]
    exact fun hcrosses => absurd hcrosses Disk.Piece.not_crosses_singleton
  · intro code ha
    obtain ⟨artifact, hwrite, hcanonical, -⟩ := t.code hc.keepsDisk ha
    obtain ⟨found, hfound, -⟩ := Disk.canonicalize_eq_ok.1 hcanonical
    have hall := allNames_of_write hp (prepare_valid t.prepared) hwrite
    rw [path_eq hp] at hfound
    exact hstuck (htree.write hwrite) (hgrows.trans (Disk.write_grows hwrite)) hall
      (mirrored_ne_nil hp) hfound

/-- The root is there, as a directory without links below it or as a file. -/
def Standing (d : Disk) (root : Path) (place : Place) : Prop :=
  d.Ground root place ∨ d.resolve root = .ok place ∧ ∃ body, d.get? place = some (.file body)

theorem Standing.leads (h : Standing d root place) : d.Leads root place := by
  rcases h with ground | ⟨hresolved, -⟩
  · exact ground.leads
  · exact .inl hresolved

theorem Turn.tells (hc : compiler.Independent sources place d) (hd : d.Tree)
    (hroot : Standing d root place) (ht : w.disk.Tree) (hr : Reached d place pieces w.disk)
    (hsource : a.source ∈ sources) (hp : names a.source ≠ [])
    (hapart : ∀ p ∈ pieces, p.Apart (pieceOf extension a.source a.answer))
    (t : Turn root compiler extension w done a done' w') :
    Tells d root place extension compiler pieces done a done' w'.disk := by
  have hvalid := prepare_valid t.prepared
  by_cases hdot : mirrored (names a.source) extension = [dot]
  · refine t.tells_of_roomy hc hr hsource (roomy_of_dot hd hroot.leads hp hdot) ?_ ?_
    · rw [reserved_of_root hdot]
      exact fun hcrosses => absurd hcrosses Disk.Piece.not_crosses_singleton
    · intro code ha
      obtain ⟨artifact, hwrite, -⟩ := t.code hc.keepsDisk ha
      have hall := allNames_of_write hp hvalid hwrite
      rw [hdot] at hall
      exact absurd hall (by decide)
  · obtain ⟨before, name, hsplit, seat⟩ := exists_seat root hp hvalid hdot
    rcases hroot with ground | ⟨hresolved, body, hfile⟩
    · exact t.tells_of_ground hc hd ground hr hsource hp hapart hsplit seat
    · exact t.tells_of_file hc hresolved hfile ht hr hsource hp hsplit seat

theorem Ready.turn_of_error {error : CompileError} {w₁ : World}
    (hc : compiler.Independent sources place d) (hsource : source ∈ sources)
    (ready : Ready d root place extension compiler source (.error error))
    (hroom : makeRoom (path root source extension)
      { w with context := w.context.apply (.file source) } = .ok () w₁)
    (houtside : d.SameOutside place w₁.disk) (hgrows : d.Grows w₁.disk) :
    ∃ a done' w', a.source = source ∧ a.answer = .error error ∧
      Turn root compiler extension w done a done' w' := by
  obtain ⟨content, hread⟩ := ready.readable rfl
  obtain ⟨v, hcalled⟩ := ready.answers houtside
  rw [← readText_blamed hc hsource hcalled houtside hgrows] at hread
  obtain ⟨a, w', hjob, hanswer, t, -⟩ := turn_of_steps (done.addRecord (recordOf error content))
    w₁.disk hc.keepsDisk ready.valid hroom (fun hv => ready.answers (hv ▸ houtside)) (by
      intro v hv
      rw [← hv] at hread ⊢
      exact settle_error_ok hread done source _)
  exact ⟨a, _, w', hjob, hanswer, t⟩

/-- A template that is ready has its turn, whatever has been compiled before it. -/
theorem Ready.exists_turn (done : Compilation) (hc : compiler.Independent sources place d)
    (hsource : source ∈ sources) (hp : names source ≠ [])
    (ready : Ready d root place extension compiler source answer)
    (hr : Reached d place pieces w.disk)
    (hapart : ∀ p ∈ pieces, p.Apart (pieceOf extension source answer)) :
    ∃ a done' w', a.source = source ∧ a.answer = answer ∧
      Turn root compiler extension w done a done' w' := by
  cases ready.fits with
  | @way before name hsplit seat ground hpass hshort hspelled hfile =>
    have hground := hr.grows.ground ground
    obtain ⟨w₁, hroom, hlaid⟩ :=
      makeRoom_ok (w := { w with context := w.context.apply (.file source) }) hground seat
        ((hr.layout.passable_iff hapart hsplit).2 hpass) hshort hspelled
    have houtside := sameOutside_of_laid hr.outside hlaid
    cases answer with
    | error error =>
      exact ready.turn_of_error hc hsource hroom houtside (hr.grows.trans hlaid.adds.grows)
    | ok code =>
      have hall := ready.named rfl
      have hpath := path_eq hp root extension
      simp only [pieceOf, reserved_of_names hall] at hsplit
      rw [hsplit] at hall hpath
      obtain ⟨hn, hlast⟩ := allNames_append.1 hall
      obtain ⟨hshort, hspell, hfree⟩ := hfile (by simp [pieceOf, Except.toOption])
      have hown := hr.layout.own hapart
      simp only [pieceOf, reserved_of_names (ready.named rfl), hsplit] at hown
      rw [← hown, ← hlaid.own, ← List.append_assoc] at hfree
      obtain ⟨d', hwrite, -, hresolve⟩ := Disk.write_short (hlaid.adds.grows.ground hground) hn
        (allNames_cons.1 hlast).1 hlaid.paved hspell hshort hfree (Text.bytes code)
      rw [← hpath] at hwrite hresolve
      have hcanonical := Disk.canonicalize_eq_ok.2 ⟨_, hresolve, rfl⟩
      obtain ⟨a, w', hjob, hanswer, t, -⟩ := turn_of_steps (done.addArtifact _ source) d' hc.keepsDisk
        ready.valid hroom (fun hv => ready.answers (hv ▸ houtside))
        (fun hv => settle_code_ok (hv ▸ hwrite) hcanonical done source)
      exact ⟨a, _, w', hjob, hanswer, t⟩
  | there hroomy hbody =>
    have hroom := makeRoom_of_roomy (w := { w with context := w.context.apply (.file source) })
      (hr.grows.roomy hroomy)
    cases answer with
    | error error => exact ready.turn_of_error hc hsource hroom hr.outside hr.grows
    | ok code => simp [pieceOf, Except.toOption] at hbody

abbrev Job := Path × Except CompileError Text

def Attempt.job (a : Attempt) : Job := (a.source, a.answer)

def Job.piece (extension : Text) (job : Job) : Disk.Piece := pieceOf extension job.1 job.2

def Job.part (d : Disk) (place : Place) (extension : Text) (job : Job) : Path × Except Record Path :=
  (job.1, partOf d place extension job.1 job.2)

section Jobs

variable {jobs jobs' : List Job} (hc : compiler.Independent sources place d) (hd : d.Tree)
  (hroot : Standing d root place) (hp : ∀ p ∈ sources, names p ≠ [])

include hc hd hroot hp

/-- A course tells about each of its templates, and comes to what they come to one by one. -/
theorem Course.tells (c : Course root compiler extension w done attempts done' w')
    (hjobs : attempts.map Attempt.job = jobs) (hsources : ∀ job ∈ jobs, job.1 ∈ sources)
    (ht : w.disk.Tree) (hr : Reached d place pieces w.disk)
    (hbefore : ∀ p ∈ pieces, ∀ job ∈ jobs, p.Apart (job.piece extension))
    (hapart : jobs.Pairwise fun j k => (j.piece extension).Apart (k.piece extension)) :
    (∀ job ∈ jobs, Ready d root place extension compiler job.1 job.2) ∧
      Reached d place ((jobs.map (·.piece extension)).reverse ++ pieces) w'.disk ∧
      done' = (jobs.map (·.part d place extension)).foldl
        (fun done part => done.add part.1 part.2) done := by
  induction c generalizing pieces jobs with
  | nil w done =>
    subst hjobs
    refine ⟨?_, hr, rfl⟩
    intro job hj
    simp at hj
  | @cons w w₁ w' done done₁ done' a rest t course ih =>
    subst hjobs
    rw [List.map_cons] at hsources hbefore hapart ⊢
    rw [List.forall_mem_cons] at hsources
    rw [List.pairwise_cons] at hapart
    have hfirst : ∀ p ∈ pieces, p.Apart (a.job.piece extension) :=
      fun p hpiece => hbefore p hpiece a.job List.mem_cons_self
    obtain ⟨hready, hlays⟩ := t.tells hc hd hroot ht hr hsources.1 (hp _ hsources.1) hfirst
    have hrest : ∀ p ∈ a.job.piece extension :: pieces, ∀ j ∈ rest.map Attempt.job,
        p.Apart (j.piece extension) := by
      rw [List.forall_mem_cons]
      exact ⟨hapart.1, fun p hpiece j hj => hbefore p hpiece j (List.mem_cons_of_mem _ hj)⟩
    obtain ⟨hreadies, hreached, hdone⟩ :=
      ih rfl hsources.2 (t.tree hc.keepsDisk ht) hlays.reached hrest hapart.2
    refine ⟨List.forall_mem_cons.2 ⟨hready, hreadies⟩, ?_, ?_⟩
    · rw [List.map_cons, List.reverse_cons, List.append_assoc]
      exact hreached
    · rw [hdone, hlays.outcome]
      rfl

/-- Templates that are ready can be compiled one after the other. -/
theorem exists_course (done : Compilation) (hsources : ∀ job ∈ jobs, job.1 ∈ sources)
    (ht : w.disk.Tree)
    (hready : ∀ job ∈ jobs, Ready d root place extension compiler job.1 job.2)
    (hr : Reached d place pieces w.disk)
    (hbefore : ∀ p ∈ pieces, ∀ job ∈ jobs, p.Apart (job.piece extension))
    (hapart : jobs.Pairwise fun j k => (j.piece extension).Apart (k.piece extension)) :
    ∃ attempts done' w', attempts.map Attempt.job = jobs ∧
      Course root compiler extension w done attempts done' w' := by
  induction jobs generalizing pieces done w with
  | nil => exact ⟨[], done, w, rfl, .nil w done⟩
  | cons job rest ih =>
    rw [List.forall_mem_cons] at hsources hready
    rw [List.pairwise_cons] at hapart
    have hfirst : ∀ p ∈ pieces, p.Apart (job.piece extension) :=
      fun p hpiece => hbefore p hpiece job List.mem_cons_self
    obtain ⟨a, done₁, w₁, hsource, hanswer, t⟩ :=
      hready.1.exists_turn done hc hsources.1 (hp _ hsources.1) hr hfirst
    have hjob : a.job = job := Prod.ext hsource hanswer
    subst hjob
    obtain ⟨-, hlays⟩ := t.tells hc hd hroot ht hr hsources.1 (hp _ hsources.1) hfirst
    have hrest : ∀ p ∈ a.job.piece extension :: pieces, ∀ j ∈ rest, p.Apart (j.piece extension) := by
      rw [List.forall_mem_cons]
      exact ⟨hapart.1, fun p hpiece j hj => hbefore p hpiece j (List.mem_cons_of_mem _ hj)⟩
    obtain ⟨attempts, done', w', hjobs, course⟩ :=
      ih done₁ hsources.2 (t.tree hc.keepsDisk ht) hready.2 hlays.reached hrest hapart.2
    exact ⟨a :: attempts, done', w', by rw [List.map_cons, hjobs], .cons t course⟩

end Jobs

def recordIn : Path × Except Record Path → Option Record
  | (_, .error record) => some record
  | (_, .ok _) => none

def entryIn : Path × Except Record Path → Option (Path × Path)
  | (source, .ok artifact) => some (artifact, source)
  | (_, .error _) => none

theorem foldl_add (parts : List (Path × Except Record Path)) (done : Compilation) :
    parts.foldl (fun done part => done.add part.1 part.2) done =
      { sourceMap := (parts.filterMap entryIn).foldl (fun m entry => m.insert entry.1 entry.2)
          done.sourceMap,
        report := ⟨done.report.records ++ parts.filterMap recordIn⟩,
        compiled := done.compiled ++ (parts.filterMap entryIn).map (·.1) } := by
  induction parts generalizing done with
  | nil => simp
  | cons part rest ih =>
    obtain ⟨source, result⟩ := part
    rw [List.foldl_cons, ih]
    cases result <;>
      simp [List.filterMap_cons, add, addRecord, addArtifact, Report.push, entryIn, recordIn]

theorem find?_eq_of_perm {α : Type} {p : α → Bool} {xs ys : List α} (h : xs.Perm ys)
    (hone : xs.Pairwise fun x y => ¬(p x ∧ p y)) : xs.find? p = ys.find? p := by
  induction h with
  | nil => rfl
  | @cons x xs ys _ ih => rw [List.find?_cons, List.find?_cons, ih (List.pairwise_cons.1 hone).2]
  | @swap x y rest =>
    have hxy := (List.pairwise_cons.1 hone).1 x List.mem_cons_self
    cases hx : p x <;> cases hy : p y <;> simp [hx, hy] at hxy ⊢
  | @trans xs ys zs h _ ih ih' =>
    rw [ih hone, ih' ((h.pairwise_iff fun hn hp => hn hp.symm).1 hone)]

theorem get?_foldl_insert_of_perm {entries entries' : List (Path × Path)}
    (h : entries.Perm entries') (hkeys : entries.Pairwise fun e f => ¬e.1.same f.1) (key : Path) :
    (entries.foldl (fun m entry => m.insert entry.1 entry.2) ({} : SourceMap)).get? key =
      (entries'.foldl (fun m entry => m.insert entry.1 entry.2) ({} : SourceMap)).get? key := by
  have hone : entries.reverse.Pairwise fun e f => ¬(e.1.same key ∧ f.1.same key) := by
    rw [List.pairwise_reverse]
    refine hkeys.imp ?_
    rintro e f hne ⟨hf, he⟩
    simp only [same, beq_iff_eq] at hne he hf
    exact hne (he.trans hf.symm)
  have hperm : entries.reverse.Perm entries'.reverse :=
    (entries.reverse_perm.trans h).trans entries'.reverse_perm.symm
  rw [SourceMap.get?_foldl_insert, SourceMap.get?_foldl_insert, find?_eq_of_perm hperm hone]

/-- Two compilations of the same templates in different orders: each template has the same part in
both. -/
structure Rearranged (sources sources' : List Path) (outcome outcome' : Compilation) : Prop where
  parts : ∃ parts parts' : List (Path × Except Record Path), parts.map (·.1) = sources ∧
    parts'.map (·.1) = sources' ∧ parts.Perm parts' ∧ outcome = assemble parts ∧
    outcome' = assemble parts'
  sourceMap : ∀ key, outcome.sourceMap.get? key = outcome'.sourceMap.get? key
  records : outcome.report.records.Perm outcome'.report.records
  compiled : outcome.compiled.Perm outcome'.compiled

theorem rearranged {jobs jobs' : List Job} (hplace : AllNames place)
    (hn : ∀ job ∈ jobs, ∀ {code}, job.2 = .ok code → AllNames (mirrored (names job.1) extension))
    (h : jobs.Perm jobs')
    (hapart : jobs.Pairwise fun j k => (j.piece extension).Apart (k.piece extension)) :
    Rearranged (jobs.map (·.1)) (jobs'.map (·.1)) (assemble (jobs.map (·.part d place extension)))
      (assemble (jobs'.map (·.part d place extension))) := by
  have hparts := h.map (·.part d place extension)
  have hentries := hparts.filterMap entryIn
  have hkeys : ((jobs.map (·.part d place extension)).filterMap entryIn).Pairwise
      fun e f => ¬e.1.same f.1 := by
    rw [List.pairwise_filterMap, List.pairwise_map]
    refine List.Pairwise.imp_of_mem ?_ hapart
    rintro ⟨p, x⟩ ⟨q, y⟩ hj hk hpieces e he f hf
    cases x with
    | error error => simp [Job.part, partOf, entryIn] at he
    | ok code =>
      cases y with
      | error error => simp [Job.part, partOf, entryIn] at hf
      | ok code' =>
        simp only [Job.part, partOf, entryIn, Option.some.injEq] at he hf
        subst he hf
        have hnp := hn _ hj rfl
        have hnq := hn _ hk rfl
        have hallp := allNames_append.2 ⟨hplace, hnp⟩
        have hallq := allNames_append.2 ⟨hplace, hnq⟩
        rw [same_ofNames hallp hallq]
        intro hsame
        have hnames := List.append_cancel_left (ofNames_injective hallp hallq hsame)
        refine hpieces.1 ⟨[], ?_⟩
        simp [Job.piece, pieceOf, reserved_of_names hnp, reserved_of_names hnq, hnames]
  refine ⟨⟨_, _, ?_, ?_, hparts, rfl, rfl⟩, fun key => ?_, ?_, ?_⟩
  · simp [Job.part, Function.comp_def]
  · simp [Job.part, Function.comp_def]
  · rw [assemble, assemble, foldl_add, foldl_add]
    exact get?_foldl_insert_of_perm hentries hkeys key
  · rw [assemble, assemble, foldl_add, foldl_add]
    exact (hparts.filterMap recordIn).append_left _
  · rw [assemble, assemble, foldl_add, foldl_add]
    exact (hentries.map _).append_left _

theorem standing_of_ensureDirectory {w₁ : World} (hd : w₁.disk.Tree)
    (hroot : Check.ensureDirectory root w = .ok () w₁) (hplace : w₁.disk.Leads root place)
    (hfree : w₁.disk.LinkFreeAt place) : Standing w₁.disk root place := by
  rcases hplace with hresolved | ⟨hempty, rfl⟩
  · have hexists := Check.ensureDirectory_exists hroot (Disk.text_ne_nil_of_resolve hresolved)
    obtain ⟨found, entry, hfound, he⟩ := Disk.pathExists_iff.1 hexists
    obtain rfl : place = found := Except.ok.inj (hresolved.symm.trans hfound)
    cases entry with
    | directory => exact .inl ⟨.inl hresolved, he, hfree⟩
    | file body => exact .inr ⟨hresolved, body, he⟩
    | link target => exact absurd (by simpa using he) (hfree [] target)
  · exact .inl ⟨.inr ⟨hempty, rfl⟩, hd.workdir, hfree⟩

theorem Course.validExtension (c : Course root compiler extension w done attempts done' w')
    (hne : attempts ≠ []) : Artifact.validExtension extension := by
  cases c with
  | nil => exact absurd rfl hne
  | cons t _ => exact prepare_valid t.prepared

/-- The course of a compilation in another order, from the same disk. -/
theorem Course.rearranged {begun begun' finished : World}
    (hc : compiler.Independent sources place d) (hd : d.Tree) (hroot : Standing d root place)
    (hplace : AllNames place) (hp : ∀ p ∈ sources, names p ≠ [])
    (hapart : sources.Pairwise fun p q => (path root p extension).Apart (path root q extension))
    (hperm : sources.Perm sources') (hbegun : begun.disk = d) (hbegun' : begun'.disk = d)
    (hsources : attempts.map Attempt.source = sources)
    (course : Course root compiler extension begun {} attempts outcome finished) :
    ∃ attempts' outcome' finished', attempts'.map Attempt.source = sources' ∧
      Course root compiler extension begun' {} attempts' outcome' finished' ∧
      finished.disk.Alike finished'.disk ∧ Rearranged sources sources' outcome outcome' := by
  have hstart : ∀ {v : World}, v.disk = d → Reached d place [] v.disk := by
    rintro v rfl
    exact ⟨.refl _, .nil _ _⟩
  obtain ⟨jobs, hjobs⟩ : ∃ jobs, attempts.map Attempt.job = jobs := ⟨_, rfl⟩
  have hfirst : jobs.map (·.1) = sources := by
    rw [← hsources, ← hjobs, List.map_map]
    rfl
  have hmem : ∀ job ∈ jobs, job.1 ∈ sources := fun job hj => hfirst ▸ List.mem_map_of_mem hj
  have hpairs : jobs.Pairwise fun j k => (j.piece extension).Apart (k.piece extension) := by
    rw [← hfirst, List.pairwise_map] at hapart
    refine hapart.imp_of_mem fun hj hk hjk => ?_
    have hne : attempts ≠ [] := by
      rintro rfl
      simp [← hjobs] at hj
    exact apart_pieces (course.validExtension hne) (hp _ (hmem _ hj)) (hp _ (hmem _ hk)) hjk _ _
  -- the first order tells what each template needs and what becomes of it
  obtain ⟨hready, hreached, houtcome⟩ := course.tells hc hd hroot hp hjobs hmem (hbegun ▸ hd)
    (hstart hbegun) (by simp) hpairs
  -- the same templates and answers in the second order
  obtain ⟨jobs', hsecond, hshuffled⟩ : ∃ jobs' : List Job, sources' = jobs'.map (·.1) ∧
      jobs'.Perm jobs := by
    rw [← hfirst] at hperm
    exact (congrFun (congrFun (List.eq_map_comp_perm _) _) _).mpr hperm.symm
  have hmem' : ∀ job ∈ jobs', job.1 ∈ sources := fun job hj => hmem job (hshuffled.subset hj)
  have hready' : ∀ job ∈ jobs', Ready d root place extension compiler job.1 job.2 :=
    fun job hj => hready job (hshuffled.subset hj)
  have hpairs' := (hshuffled.pairwise_iff fun hjk => And.symm hjk).2 hpairs
  obtain ⟨attempts', outcome', finished', hjobs', course'⟩ := exists_course hc hd hroot hp {}
    hmem' (hbegun' ▸ hd) hready' (hstart hbegun') (by simp) hpairs'
  obtain ⟨-, hreached', houtcome'⟩ := course'.tells hc hd hroot hp hjobs' hmem' (hbegun' ▸ hd)
    (hstart hbegun') (by simp) hpairs'
  refine ⟨attempts', outcome', finished', ?_, course', ?_, ?_⟩
  · rw [hsecond, ← hjobs', List.map_map]
    rfl
  · apply hreached.layout.alike hreached'.layout
    intro piece
    simp [hshuffled.mem_iff]
  · rw [← hfirst, hsecond, houtcome, houtcome']
    exact TemplateCheck.Compilation.rearranged hplace (fun job hj => (hready job hj).named)
      hshuffled.symm hpairs

/-- A compilation that succeeds in one order of its templates succeeds in every other order. -/
theorem run_in_any_order {w₁ : World} (ht : w.disk.Tree)
    (hroot : Check.ensureDirectory root w = .ok () w₁) (hplace : w₁.disk.Leads root place)
    (hfree : w₁.disk.LinkFreeAt place) (hc : compiler.Independent sources place w₁.disk)
    (hp : ∀ p ∈ sources, names p ≠ [])
    (hapart : sources.Pairwise fun p q => (path root p extension).Apart (path root q extension))
    (hperm : sources.Perm sources') (h : run root sources compiler extension w = .ok outcome w') :
    ∃ outcome' w'', run root sources' compiler extension w = .ok outcome' w'' ∧
      w'.disk.Alike w''.disk ∧ Rearranged sources sources' outcome outcome' := by
  have hd := Check.ensureDirectory_tree ht hroot
  have hstanding := standing_of_ensureDirectory hd hroot hplace hfree
  obtain ⟨begun, attempts, finished, hbegun, hsources, course, hquiet⟩ := run_eq_ok h
  have hdisk : begun.disk = w₁.disk := by
    have hsame := hbegun.symm.trans (Check.ensureDirectory_of_disk hroot rfl)
    rw [(EStateM.Result.ok.inj hsame).2]
  obtain ⟨begun', hbegun', hdisk'⟩ : ∃ begun', Check.ensureDirectory root
      { w with context := w.context.apply (.phase .compile),
               progress := ⟨0, UInt64.ofNat sources'.length⟩ } = .ok () begun' ∧
      begun'.disk = w₁.disk := ⟨_, Check.ensureDirectory_of_disk hroot rfl, rfl⟩
  obtain ⟨attempts', outcome', finished', hsources', course', halike, hrearranged⟩ :=
    course.rearranged hc hd hstanding hplace.allNames hp hapart hperm hdisk hdisk' hsources
  obtain ⟨w'', hrun, hfinal⟩ := run_of_course hbegun' hsources' course'
  refine ⟨outcome', w'', hrun, ?_, hrearranged⟩
  rw [hquiet.disk, hfinal]
  exact halike

/-! Three templates whose artifacts lie in one directory, which is made for the first of them. -/

def trioDisk : Disk where
  entries := [(["s"], .directory), (["s", "out"], .directory), (["s", "t"], .directory),
    (["s", "t", "a.latte"], .file (Text.bytes "A")), (["s", "t", "b.latte"], .file (Text.bytes "B")),
    (["s", "t", "c.latte"], .file (Text.bytes "C"))]
  workdir := ["s"]
  workdir_names := Disk.allNames_s

def trio : List Path := ["/s/t/a.latte", "/s/t/b.latte", "/s/t/c.latte"]

def trioArtifacts : List Path := ["/s/out/s/t/a.php", "/s/out/s/t/c.php"]

def trioCompiler : Compiler :=
  Scripted.compiler [("a.latte", .code "one"), ("b.latte", .mistake "unclosed tag" 1 none),
    ("c.latte", .code "three")]

theorem trioDisk_tree : trioDisk.Tree := Disk.tree_of_entries (by decide) (by decide +kernel)

theorem trioDisk_linkFree : trioDisk.LinkFree := Disk.linkFree_of_entries (by decide)

theorem trioCompiler_independent : trioCompiler.Independent trio ["s", "out"] trioDisk := by
  refine ⟨Scripted.compiler_keepsDisk _, ?_, ?_⟩
  · intro source v v' answer v₁ hs _ _ h
    simp only [trio, List.mem_cons, List.not_mem_nil, or_false] at hs
    rcases hs with rfl | rfl | rfl
    · obtain ⟨rfl, -⟩ := pure_eq_ok.1 h
      exact ⟨v', rfl⟩
    · obtain ⟨rfl, -⟩ := pure_eq_ok.1 h
      exact ⟨v', rfl⟩
    · obtain ⟨rfl, -⟩ := pure_eq_ok.1 h
      exact ⟨v', rfl⟩
  · intro source v error v₁ hs _ h
    simp only [trio, List.mem_cons, List.not_mem_nil, or_false] at hs
    rcases hs with rfl | rfl | rfl
    · obtain ⟨he, -⟩ := pure_eq_ok.1 h
      simp at he
    · obtain ⟨he, -⟩ := pure_eq_ok.1 h
      obtain rfl := Except.error.inj he
      exact ⟨["s", "t", "b.latte"], Text.bytes "B", by decide +kernel, rfl, by decide⟩
    · obtain ⟨he, -⟩ := pure_eq_ok.1 h
      simp at he

theorem run_in_any_order_trio : ∃ outcome w outcome' w',
    run "out" trio trioCompiler "php" { disk := trioDisk } = .ok outcome w ∧
    run "out" trio.reverse trioCompiler "php" { disk := trioDisk } = .ok outcome' w' ∧
    w.disk.Alike w'.disk ∧ Rearranged trio trio.reverse outcome outcome' ∧
    outcome.compiled = trioArtifacts ∧ outcome.report.count = 1 := by
  have hrun : outcome? (fun outcome _ => (outcome.compiled, outcome.report.count))
      (run "out" trio trioCompiler "php" { disk := trioDisk }) =
        some (trioArtifacts, 1) := by
    decide +kernel
  obtain ⟨outcome, w, h, hparts⟩ := exists_of_outcome hrun
  have hroot : Check.ensureDirectory "out" { disk := trioDisk } = .ok () { disk := trioDisk } :=
    Check.ensureDirectory_of_exists (by decide +kernel)
  have hnames : ∀ p ∈ trio, names p ≠ [] := by decide +kernel
  have hapart : trio.Pairwise fun p q => (path "out" p "php").Apart (path "out" q "php") := by
    have hfronts : trio.Pairwise fun p q =>
        ¬(path "out" p "php").components <+: (path "out" q "php").components ∧
          ¬(path "out" q "php").components <+: (path "out" p "php").components := by
      decide +kernel
    exact hfronts.imp fun h => apart_of_components h.1 h.2
  obtain ⟨outcome', w', h', halike, hrearranged⟩ := run_in_any_order trioDisk_tree hroot
    (.inl (by decide +kernel)) (trioDisk_linkFree.below _) trioCompiler_independent hnames hapart
    trio.reverse_perm.symm h
  obtain ⟨hcompiled, hcount⟩ := Prod.mk.inj hparts
  exact ⟨outcome, w, outcome', w', h, h', halike, hrearranged, hcompiled, hcount⟩

/-- A compiler whose answers do not depend on what is at a place or below it. -/
def BlindTo (compiler : Compiler) (place : Place) : Prop :=
  ∀ source {v v' : World}, v.disk.SameOutside place v'.disk →
    outcome? (fun answer _ => answer) (compiler.compile source v) =
      outcome? (fun answer _ => answer) (compiler.compile source v')

def forkDisk : Disk where
  entries := [(["s"], .directory), (["s", "t"], .directory),
    (["s", "t", "a.latte"], .file (Text.bytes "A")), (["s", "t", "d"], .directory),
    (["s", "t", "d", "b.latte"], .file (Text.bytes "B"))]
  workdir := ["s"]
  workdir_names := Disk.allNames_s

def fork : List Path := ["t/a.latte", "t/d/b.latte"]

def nameless : List Path := ["..", "t/a.latte"]

def tallyPlace : Place := ["s", "tally"]

/-- Adds a stroke to a tally that is kept in a file, and answers with the tally. -/
def tallyCompiler : Compiler where
  compile _ := do
    let strokes : Text := match (← readDisk).get? tallyPlace with
      | some (.file body) => List.replicate (body.size + 1) 'I'
      | _ => ['I']
    modify fun w => { w with disk := w.disk.put tallyPlace (.file (Text.bytes strokes)) }
    return .ok strokes

/-- Finds a mistake in one template, and blames a file for it. -/
def blaming (file : Path) : Compiler where
  compile source :=
    return if source.fileName = some "a.latte".toList then .error ⟨"broken", file, 1⟩ else .ok []

/-- Leads to a file outside of the root, through a directory that is made for another artifact. -/
def detour : Path := "out/t/d/../../../t/a.latte"

theorem tallyCompiler_blindTo : BlindTo tallyCompiler ["s", "out"] := by
  intro source v v' h
  have hentry := h.entry tallyPlace (by decide)
  show some (Except.ok _) = some (Except.ok _)
  simp only [hentry]

theorem blaming_blindTo (file : Path) : BlindTo (blaming file) ["s", "out"] :=
  fun _ _ _ _ => rfl

theorem scattered : ∀ sources ∈ [fork, nameless],
    sources.Pairwise fun p q => (path "out" p "php").Apart (path "out" q "php") := by
  have hfronts : ∀ sources ∈ [fork, nameless], sources.Pairwise fun p q =>
      ¬(path "out" p "php").components <+: (path "out" q "php").components ∧
        ¬(path "out" q "php").components <+: (path "out" p "php").components := by
    decide +kernel
  intro sources hs
  exact (hfronts sources hs).imp fun h => apart_of_components h.1 h.2

/-- It is not enough that artifacts are not in each other's way, that no answer depends on what is
below the root, and that all blamed files are outside of it. The order shows if the compiler leaves a
trace outside of the root, if a blamed file is only found after another template had its turn, and if
one of the templates has its artifact outside of the root. -/
theorem order_shows :
    forkDisk.Tree ∧ forkDisk.LinkFree ∧
    (∀ sources ∈ [fork, nameless],
      sources.Pairwise fun p q => (path "out" p "php").Apart (path "out" q "php")) ∧
    BlindTo tallyCompiler ["s", "out"] ∧ (∀ file, BlindTo (blaming file) ["s", "out"]) ∧
    (outcome? (fun _ w => w.disk.readText "out/t/a.php")
        (run "out" fork tallyCompiler "php" { disk := forkDisk }) = some (.ok "I") ∧
      outcome? (fun _ w => w.disk.readText "out/t/a.php")
        (run "out" fork.reverse tallyCompiler "php" { disk := forkDisk }) = some (.ok "II")) ∧
    (outcome? (fun outcome w => (outcome.report.count, w.disk.resolve detour))
        (run "out" fork.reverse (blaming detour) "php" { disk := forkDisk }) =
          some (1, .ok ["s", "t", "a.latte"]) ∧
      outcome? (fun outcome _ => outcome)
        (run "out" fork (blaming detour) "php" { disk := forkDisk }) = none) ∧
    outcome? (fun outcome w => (outcome.report.count, w.disk.resolve "out.php"))
        (run "out" nameless (blaming "out.php") "php" { disk := forkDisk }) =
          some (1, .ok ["s", "out.php"]) ∧
      outcome? (fun outcome _ => outcome)
        (run "out" nameless.reverse (blaming "out.php") "php" { disk := forkDisk }) = none := by
  refine ⟨Disk.tree_of_entries (by decide) (by decide +kernel),
    Disk.linkFree_of_entries (by decide), scattered, tallyCompiler_blindTo, blaming_blindTo, ?_, ?_, ?_⟩
  · constructor <;> decide +kernel
  · constructor <;> decide +kernel
  · constructor <;> decide +kernel

end Compilation

end TemplateCheck
