import TemplateCheck.Command.Starter
import TemplateCheck.Proofs.Landing

/-!
The starter is written if its path leads nowhere, or by force. The look-up and the write follow the
same links, and as many of them, so a path that leads nowhere cannot be written through to a file that
is there. A file is opened before it is written to, and is empty from then on: if the medium fails, the
old content is gone, and if it does not keep what it takes, a success does not show. In all of this
nothing changes but the file that the path leads to.
-/
namespace TemplateCheck

theorem Text.ofBytes?_bytes (t : Text) : Text.ofBytes? (Text.bytes t) = some t := by
  simp [Text.ofBytes?, Text.bytes]

namespace Disk

variable {d d' : Disk} {p : Path} {place : Place} {text : Text} {body : ByteArray}

/-- One file was written: the path reads as the text, and all other places are as they were. -/
structure Wrote (d : Disk) (p : Path) (text : Text) (d' : Disk) : Prop where
  reads : d'.readText p = .ok text
  frame : ∃ place, d'.resolve p = .ok place ∧ ∀ other, other ≠ place → d'.get? other = d.get? other

/-- A medium has been handed a text, and the file that the path leads to holds what was kept of it. All
other places are as they were. -/
structure Stored (medium : Medium) (d : Disk) (p : Path) (text : Text) (result : Except Fault Unit)
    (d' : Disk) : Prop where
  file : ∃ place kept, medium.take place (Text.bytes text) = (result, kept) ∧
    (d.get? place = none ∨ d.resolve p = .ok place ∧ ∃ old, d.get? place = some (.file old)) ∧
    d'.resolve p = .ok place ∧ d'.readBytes p = .ok kept ∧
    ∀ other, other ≠ place → d'.get? other = d.get? other

theorem Stored.wrote {medium : Medium} (h : Stored medium d p text (.ok ()) d')
    (htakes : ∀ place, medium.take place (Text.bytes text) = (.ok (), Text.bytes text)) :
    Wrote d p text d' := by
  obtain ⟨place, kept, htake, -, hresolve, hbytes, hframe⟩ := h.file
  obtain rfl : Text.bytes text = kept := (Prod.mk.inj ((htakes place).symm.trans htake)).2
  refine ⟨?_, place, hresolve, hframe⟩
  simp only [readText, hbytes, Text.ofBytes?_bytes]

theorem Stored.keeps_entries {medium : Medium} {result : Except Fault Unit}
    (h : Stored medium d p text result d') (hfree : d.pathExists p = false) {entry : Entry}
    (he : d.get? place = some entry) : d'.get? place = some entry := by
  obtain ⟨target, kept, -, hbefore, -, -, hframe⟩ := h.file
  rcases hbefore with hnone | ⟨hresolve, old, hold⟩
  · have hne : place ≠ target := by
      rintro rfl
      simp [hnone] at he
    rw [hframe place hne, he]
  · -- a file at the end of the path would have been found by the look-up
    rw [pathExists_iff.2 ⟨target, _, hresolve, hold⟩] at hfree
    cases hfree

/-- Opening a file decides where its content goes. -/
theorem store_cases (medium : Medium) (d : Disk) (p : Path) (text : Text) :
    (∃ fault, d.write p .empty = .error fault ∧
      d.store medium p (Text.bytes text) = (.error fault, d)) ∨
    ∃ result d', d.store medium p (Text.bytes text) = (result, d') ∧
      Stored medium d p text result d' := by
  cases hopen : d.write p .empty with
  | error fault =>
    left
    exact ⟨fault, rfl, by rw [store, hopen]⟩
  | ok opened =>
    right
    obtain ⟨place, hne, hplace, hput, hresolve⟩ := write_target hopen
    cases htake : medium.take place (Text.bytes text) with
    | mk result kept =>
      have hheld : (opened.put place (.file kept)).get? place = some (.file kept) :=
        get?_put_self hne _
      have hleads : (opened.put place (.file kept)).resolve p = .ok place := by
        refine (grows_put_file (.inr ⟨.empty, ?_⟩)).resolve_eq hresolve
        rw [hput, get?_put_self hne]
      refine ⟨result, opened.put place (.file kept), ?_, place, kept, htake, hplace, hleads, ?_, ?_⟩
      · rw [store, hopen]
        simp only [hresolve, htake]
      · rw [readBytes, hleads]
        simp only [hheld]
      · intro other hother
        rw [get?_put_of_ne hother, hput, get?_put_of_ne hother]

/-- Whether and where a file can be written does not depend on what is written. -/
theorem writeFrom_body (a b : ByteArray) (d : Disk) (budget : Nat) (start : Place) (p : Path) :
    (∃ fault, d.writeFrom a budget start p = .error fault ∧ d.writeFrom b budget start p = .error fault) ∨
    ∃ place, d.writeFrom a budget start p = .ok (d.put place (.file a)) ∧
      d.writeFrom b budget start p = .ok (d.put place (.file b)) := by
  fun_induction d.writeFrom a budget start p with
  | case1 budget start p fault happroach =>
    exact .inl ⟨fault, rfl, by rw [writeFrom, happroach]⟩
  | case2 budget start p happroach => exact .inl ⟨_, rfl, by rw [writeFrom, happroach]⟩
  | case3 budget start p directory name happroach =>
    exact .inl ⟨_, rfl, by rw [writeFrom, happroach]⟩
  | case4 budget start p directory name happroach hnone =>
    refine .inr ⟨_, rfl, ?_⟩
    rw [writeFrom, happroach]
    simp only [hnone]
  | case5 budget start p directory name happroach old hold =>
    refine .inr ⟨_, rfl, ?_⟩
    rw [writeFrom, happroach]
    simp only [hold]
  | case6 budget start p directory name happroach hdirectory =>
    refine .inl ⟨_, rfl, ?_⟩
    rw [writeFrom, happroach]
    simp only [hdirectory]
  | case7 budget start p directory name happroach target hlink hnone =>
    refine .inl ⟨_, rfl, ?_⟩
    rw [writeFrom, happroach]
    simp only [hlink, hnone, if_true]
  | case8 budget start p directory name happroach target hlink hleft ih =>
    have hb : d.writeFrom b budget start p = d.writeFrom b
        (d.linksLeft budget (startOf start p) p.segments.dropLast - 1) directory target := by
      rw [writeFrom, happroach]
      simp only [hlink, hleft, if_false]
    rw [hb]
    exact ih

theorem write_body (a b : ByteArray) (d : Disk) (p : Path) :
    (∃ fault, d.write p a = .error fault ∧ d.write p b = .error fault) ∨
    ∃ place, d.write p a = .ok (d.put place (.file a)) ∧
      d.write p b = .ok (d.put place (.file b)) := by
  unfold write
  cases spellingFault p with
  | some fault => exact .inl ⟨fault, rfl, rfl⟩
  | none => exact writeFrom_body a b d linkLimit d.workdir p

theorem put_put (d : Disk) (place : Place) (e f : Entry) : (d.put place e).put place f = d.put place f := by
  simp [put, List.filter_filter]

theorem store_reliable (d : Disk) (p : Path) (body : ByteArray) :
    d.store .reliable p body = match d.write p body with
      | .ok d' => (.ok (), d')
      | .error fault => (.error fault, d) := by
  rcases write_body .empty body d p with ⟨fault, hopen, hwrite⟩ | ⟨place, hopen, hwrite⟩
  · rw [store, hopen, hwrite]
  · obtain ⟨found, -, -, hput, hresolve⟩ := write_target hopen
    obtain rfl : place = found := (Prod.mk.inj (List.cons.inj (congrArg entries hput)).1).1
    simp only [store, hopen, hwrite, hresolve, Medium.reliable, put_put]

end Disk

theorem Check.storeText_reliable (path : Path) (text : Text) :
    Check.storeText .reliable path text = Check.writeText path text := by
  funext w
  simp only [Check.storeText, Check.writeText, CheckM.readDisk_bind, Disk.store_reliable]
  cases w.disk.write path (Text.bytes text) <;> rfl

namespace Command

open CheckM

variable {medium : Medium} {path : Path} {force : Bool} {w : World}

theorem print_run {ε : Type} (line : Text) (w : World) : ∃ output,
    (print line : CheckM ε Unit) w = .ok () { w with output } ∨
      ∃ crash, (print line : CheckM ε Unit) w = .error (.crashed crash) { w with output } := by
  rw [print, get_bind]
  cases w.output.deliver [line ++ ['\n']] with
  | mk result output =>
    cases result with
    | ok => exact ⟨output, .inl rfl⟩
    | error cause => exact ⟨output, .inr ⟨_, rfl⟩⟩

/-- How the command ends: it refuses, it cannot open the file, or the medium has its say. -/
inductive Start (medium : Medium) (path : Path) (force : Bool) (w : World) : Prop where
  | refused (there : w.disk.pathExists path) (unforced : force = false)
      (run : init medium path force w = .error (.failed (.alreadyThere path)) w)
  | unopened {fault : Fault} (write : w.disk.write path .empty = .error fault)
      (run : init medium path force w =
        .error (.failed (.plain (.io "Failed to write file" path (.fault fault)))) w)
  | cut {fault : Fault} {disk : Disk} (free : force = false → w.disk.pathExists path = false)
      (stored : w.disk.Stored medium path starter (.error fault) disk)
      (run : init medium path force w =
        .error (.failed (.plain (.io "Failed to write file" path (.fault fault)))) { w with disk })
  | written {disk : Disk} {output : Sink} (free : force = false → w.disk.pathExists path = false)
      (stored : w.disk.Stored medium path starter (.ok ()) disk)
      (run : init medium path force w = .ok () { w with disk, output } ∨
        ∃ crash, init medium path force w = .error (.crashed crash) { w with disk, output })

theorem start (medium : Medium) (path : Path) (force : Bool) (w : World) :
    Start medium path force w := by
  by_cases hthere : (w.disk.pathExists path && !force) = true
  · rw [Bool.and_eq_true, Bool.not_eq_true'] at hthere
    refine .refused hthere.1 hthere.2 ?_
    rw [init, readDisk_bind, hthere.1, hthere.2]
    rfl
  · have hinit : init medium path force w =
        (mapError .plain (Check.storeText medium path starter) >>= fun _ =>
          print ("Created " ++ path.display ++ " bootstrap file")) w := by
      rw [init, readDisk_bind, if_neg hthere]
    have hfree : force = false → w.disk.pathExists path = false := by
      intro hforce
      simpa [hforce] using hthere
    rcases w.disk.store_cases medium path starter with ⟨fault, hwrite, hstore⟩ |
      ⟨result, disk, hstore, hstored⟩
    · refine .unopened hwrite (hinit.trans (bind_of_error ?_))
      simp only [mapError, Check.storeText, readDisk_bind, hstore]
      rfl
    · cases result with
      | error fault =>
        refine .cut hfree hstored (hinit.trans (bind_of_error ?_))
        simp only [mapError, Check.storeText, readDisk_bind, hstore]
        rfl
      | ok =>
        have hdone : mapError Failure.plain (Check.storeText medium path starter) w =
            .ok () { w with disk } := by
          simp only [mapError, Check.storeText, readDisk_bind, hstore]
          rfl
        rw [bind_of_ok hdone] at hinit
        obtain ⟨output, hprint | ⟨crash, hprint⟩⟩ := print_run
          ("Created " ++ path.display ++ " bootstrap file") { w with disk }
        · exact .written hfree hstored (.inl (hinit.trans hprint))
        · exact .written hfree hstored (.inr ⟨crash, hinit.trans hprint⟩)

theorem init_keeps_entries {place : Place} {entry : Entry} (h : w.disk.get? place = some entry) :
    ((init medium path false).diskAfter w).get? place = some entry := by
  cases start medium path false w with
  | refused there unforced run => rw [diskAfter, run, h]
  | unopened write run => rw [diskAfter, run, h]
  | cut free stored run => rw [diskAfter, run, stored.keeps_entries (free rfl) h]
  | written free stored run =>
    have hkept := stored.keeps_entries (free rfl) h
    rcases run with run | ⟨crash, run⟩ <;> rw [diskAfter, run, hkept]

/-- Why the command fails before it has opened the file. -/
def Hindered (path : Path) (force : Bool) (w : World) : Failure → Prop
  | .alreadyThere p => p = path ∧ force = false ∧ w.disk.pathExists path
  | .plain (.io message p (.fault fault)) => message = "Failed to write file".toList ∧ p = path ∧
    w.disk.write path .empty = .error fault
  | _ => False

/-- The command fails because the medium does, and what was taken until then is what is left. -/
def CutOff (medium : Medium) (path : Path) (w : World) (failure : Failure) (disk : Disk) : Prop :=
  ∃ fault, failure = .plain (.io "Failed to write file" path (.fault fault)) ∧
    w.disk.Stored medium path starter (.error fault) disk

/-- What can be said of the command whichever way it ends. -/
structure Spares (medium : Medium) (path : Path) (force : Bool) (w : World) : Prop where
  failed : ∀ failure w', init medium path force w = .error (.failed failure) w' →
    w'.disk = w.disk ∧ Hindered path force w failure ∨ CutOff medium path w failure w'.disk
  done : ∀ w', init medium path force w = .ok () w' →
    w.disk.Stored medium path starter (.ok ()) w'.disk

theorem spares_of_failed {failure : Failure} {w₁ : World}
    (run : init medium path force w = .error (.failed failure) w₁)
    (h : w₁.disk = w.disk ∧ Hindered path force w failure ∨ CutOff medium path w failure w₁.disk) :
    Spares medium path force w := by
  constructor
  · intro other w' hother
    obtain ⟨hhalt, rfl⟩ := EStateM.Result.error.inj (run.symm.trans hother)
    obtain rfl := Halt.failed.inj hhalt
    exact h
  · intro w' hdone
    simp [run] at hdone

theorem spares (medium : Medium) (path : Path) (force : Bool) (w : World) :
    Spares medium path force w := by
  cases start medium path force w with
  | refused there unforced run => exact spares_of_failed run (.inl ⟨rfl, rfl, unforced, there⟩)
  | unopened write run => exact spares_of_failed run (.inl ⟨rfl, rfl, rfl, write⟩)
  | cut free stored run => exact spares_of_failed run (.inr ⟨_, rfl, stored⟩)
  | written free stored run =>
    rcases run with run | ⟨crash, run⟩
    · constructor
      · intro failure w' h
        simp [run] at h
      · intro w' h
        obtain ⟨-, rfl⟩ := EStateM.Result.ok.inj (run.symm.trans h)
        exact stored
    · constructor
      · intro failure w' h
        simp [run] at h
      · intro w' h
        simp [run] at h

/-- Without force every file is kept. With or without it, nothing changes but the file that the path
leads to, and that only once it is open: then it holds what the medium has taken. On a medium that
takes the whole starter, a failure leaves the disk alone, and after a success the starter is read
back. -/
theorem init_spares_files (medium : Medium) (path : Path) (w : World) :
    (∀ place body, w.disk.get? place = some (.file body) →
      ((init medium path false).diskAfter w).get? place = some (.file body)) ∧
    (∀ force, Spares medium path force w) ∧
    ((∀ place, medium.take place (Text.bytes starter) = (.ok (), Text.bytes starter)) → ∀ force,
      (∀ failure w', init medium path force w = .error (.failed failure) w' → w'.disk = w.disk) ∧
      ∀ w', init medium path force w = .ok () w' → w.disk.Wrote path starter w'.disk) := by
  refine ⟨fun place body h => init_keeps_entries h, fun force => spares medium path force w, ?_⟩
  intro htakes force
  constructor
  · intro failure w' h
    rcases (spares medium path force w).failed failure w' h with ⟨hdisk, -⟩ | ⟨fault, -, hstored⟩
    · exact hdisk
    · obtain ⟨place, kept, htake, -⟩ := hstored.file
      simp [htakes] at htake
  · intro w' h
    exact ((spares medium path force w).done w' h).wrote htakes

/-- A link that points to a file, one that points to nothing yet, and one that points to itself. -/
def linkedDisk : Disk where
  entries := [(["conf"], .directory), (["conf", "old"], .file (Text.bytes "# mine")),
    (["there"], .link "conf/old"), (["dangling"], .link "conf/new"), (["cycle"], .link "cycle")]
  workdir := []
  workdir_names := by simp

theorem init_spares_files_linked :
    (∃ w', init .reliable "dangling" false { disk := linkedDisk } = .ok () w' ∧
      linkedDisk.Wrote "dangling" starter w'.disk ∧
      w'.disk.get? ["conf", "old"] = some (.file (Text.bytes "# mine"))) ∧
    (∃ failure w', init .reliable "there" false { disk := linkedDisk } = .error (.failed failure) w' ∧
      w'.disk = linkedDisk) ∧
    (∃ w', init .reliable "there" true { disk := linkedDisk } = .ok () w' ∧
      linkedDisk.Wrote "there" starter w'.disk) ∧
    ∃ failure w', init .reliable "cycle" true { disk := linkedDisk } = .error (.failed failure) w' ∧
      w'.disk = linkedDisk := by
  have hold : linkedDisk.get? ["conf", "old"] = some (.file (Text.bytes "# mine")) := by rfl
  have htakes : ∀ place, Medium.reliable.take place (Text.bytes starter) =
      (.ok (), Text.bytes starter) := fun _ => rfl
  refine ⟨?_, ?_, ?_, ?_⟩
  · have hrun : outcome? (fun _ _ => ())
        (init .reliable "dangling" false { disk := linkedDisk }) = some () := by
      decide +kernel
    obtain ⟨_, w', h, -⟩ := exists_of_outcome hrun
    obtain ⟨hkept, -, hends⟩ := init_spares_files .reliable "dangling" { disk := linkedDisk }
    have hafter := hkept _ _ hold
    rw [diskAfter_of_ok h] at hafter
    exact ⟨w', h, (hends htakes false).2 w' h, hafter⟩
  · have hrun : failure? (init .reliable "there" false { disk := linkedDisk }) =
        some (.alreadyThere "there") := by
      decide +kernel
    obtain ⟨w', h⟩ := exists_of_failure hrun
    exact ⟨_, w', h, ((init_spares_files .reliable "there" _).2.2 htakes false).1 _ w' h⟩
  · have hrun : outcome? (fun _ _ => ())
        (init .reliable "there" true { disk := linkedDisk }) = some () := by
      decide +kernel
    obtain ⟨_, w', h, -⟩ := exists_of_outcome hrun
    exact ⟨w', h, ((init_spares_files .reliable "there" _).2.2 htakes true).2 w' h⟩
  · have hrun : failure? (init .reliable "cycle" true { disk := linkedDisk }) =
        some (.plain (.io "Failed to write file" "cycle" (.fault .tooManyLinks))) := by
      decide +kernel
    obtain ⟨w', h⟩ := exists_of_failure hrun
    exact ⟨_, w', h, ((init_spares_files .reliable "cycle" _).2.2 htakes true).1 _ w' h⟩

def fullMedium : Medium := ⟨fun _ _ => (.error .noSpace, .empty)⟩

def nullMedium : Medium := ⟨fun _ _ => (.ok (), .empty)⟩

/-- A failure costs the old content of the file, or leaves a file behind that was not there. A success
does not mean that the starter can be read. -/
theorem unkept_starter_costs_file :
    (∃ w', init fullMedium "there" true { disk := linkedDisk } =
        .error (.failed (.plain (.io "Failed to write file" "there" (.fault .noSpace)))) w' ∧
      linkedDisk.readText "there" = .ok "# mine" ∧ w'.disk.readText "there" = .ok []) ∧
    (∃ w', init fullMedium "dangling" false { disk := linkedDisk } =
        .error (.failed (.plain (.io "Failed to write file" "dangling" (.fault .noSpace)))) w' ∧
      linkedDisk.isFile "conf/new" = false ∧ w'.disk.isFile "conf/new") ∧
    ∃ w', init nullMedium "there" true { disk := linkedDisk } = .ok () w' ∧
      w'.disk.readText "there" = .ok [] ∧ starter ≠ [] := by
  refine ⟨?_, ?_, ?_⟩
  · have hrun : failure? (init fullMedium "there" true { disk := linkedDisk }) =
        some (.plain (.io "Failed to write file" "there" (.fault .noSpace))) := by
      decide +kernel
    have hleft : ((init fullMedium "there" true).diskAfter { disk := linkedDisk }).readText "there" =
        .ok [] := by
      decide +kernel
    obtain ⟨w', h⟩ := exists_of_failure hrun
    rw [diskAfter, h] at hleft
    exact ⟨w', h, by decide +kernel, hleft⟩
  · have hrun : failure? (init fullMedium "dangling" false { disk := linkedDisk }) =
        some (.plain (.io "Failed to write file" "dangling" (.fault .noSpace))) := by
      decide +kernel
    have hleft : ((init fullMedium "dangling" false).diskAfter { disk := linkedDisk }).isFile
        "conf/new" := by
      decide +kernel
    obtain ⟨w', h⟩ := exists_of_failure hrun
    rw [diskAfter, h] at hleft
    exact ⟨w', h, by decide +kernel, hleft⟩
  · have hrun : outcome? (fun _ w => w.disk.readText "there")
        (init nullMedium "there" true { disk := linkedDisk }) = some (.ok []) := by
      decide +kernel
    obtain ⟨_, w', h, hread⟩ := exists_of_outcome hrun
    exact ⟨w', h, hread, by decide +kernel⟩

end Command

end TemplateCheck
