import Routewright.Proofs.AtomicWrite
import Routewright.Proofs.Utf8

/-!
# Cleaning up after atomic writes

After a failed step an atomic write closes its temporary file before it removes it, and closing can
fail as well : by itself, or as what was handed over can still not be written. Then the temporary
file stays. `run_prepare` says where writing stops, `files_closeAndGiveUp` what cleaning up comes
to, and `run_cleanUp` that this is the only way in which a write leaves anything but its result.
-/

namespace Routewright.World

variable {w v : World} {place : Place} {path : Path} {text : String}

/-- A step between creating a temporary file and moving it fails. -/
def FailsWriting (w : World) : Prop :=
  w.faults .append ∨ w.faults .flush ∨ w.faults .sync ∨ w.faults .close

/-- A temporary file cannot be closed after a failed step, be it that text is handed over which
cannot be written. -/
def FailsClosing (w : World) (text : String) : Prop :=
  w.faults .abandon ∨ w.faults .append = false ∧ w.faults .flush ∧ text ≠ ""

/-- A temporary file is created, cannot be written and cannot be closed. -/
def LeavesTemporary (w : World) (path : Path) (text : String) : Prop :=
  (∃ place, (w.createTemporary path).1 = .ok place) ∧ w.FailsWriting ∧ w.FailsClosing text

/-- Where nothing was and nothing is, nothing has changed. -/
theorem AlikeBut.find?_eq (h : AlikeBut place w v) (hfree : w.files.find? place = none)
    (hgone : v.files.find? place = none) (p : Place) : v.files.find? p = w.files.find? p := by
  by_cases hp : p = place
  · rw [hp, hgone, hfree]
  · exact h.find? p hp

/-! ## Closing -/

/-- A file to which nothing is handed over fails to be closed only by itself. -/
theorem close_of_empty {step : WriteStep} (hempty : w.unwritten = []) :
    w.close step place = (if w.faults step then .error fault else .ok (), w) := by
  have hw : { w with unwritten := [] } = w := by rw [← hempty]
  unfold close
  simp only [hempty, List.isEmpty_nil, if_true, hw]
  split_ifs <;> rfl

/-- A file to which something is handed over cannot be closed if nothing can be written. -/
theorem close_of_flush {step : WriteStep} (hflush : w.faults .flush) (h : w.unwritten ≠ []) :
    w.close step place = (.error fault, { w with unwritten := [] }) := by
  unfold close flush
  simp only [List.isEmpty_eq_false_iff.mpr h, hflush, if_true, Bool.false_eq_true, if_false]

end Routewright.World

namespace Routewright.AtomicWrite

open World

variable {w v u : World} {place : Place} {path : Path} {text : String} {fault : FileFault}

/-! ## Where writing stops -/

theorem run_append (w : World) (file : Place) (text : String) :
    w.run (Machine.append (m := StateM World) file text) = w.append text :=
  rfl

theorem run_flush (w : World) (place : Place) :
    w.run (Machine.flush (m := StateM World) place) = w.flush place :=
  rfl

theorem run_sync (w : World) (place : Place) :
    w.run (Machine.sync (m := StateM World) place) =
      (if w.faults .sync then .error World.fault else .ok (), w) :=
  rfl

theorem run_close (w : World) (place : Place) :
    w.run (Machine.close (m := StateM World) place) = w.close .close place :=
  rfl

/-- Writing stops at the first step that fails. Text that could not be written is still handed
over. -/
theorem run_prepare (place : Place) (text : String) (hempty : w.unwritten = []) :
    w.run (prepare place text) =
      if w.faults .append then (.error World.fault, w)
      else if w.faults .flush then
        (.error World.fault, { w with unwritten := Text.encodeUtf8 text })
      else
        (if w.faults .sync ∨ w.faults .close then .error World.fault else .ok (),
          { w with
            files := w.files.put place
              (.file ((w.files.content? place).getD [] ++ Text.encodeUtf8 text))
            unwritten := [] }) := by
  rw [prepare, fill, run_bind, run_bind, run_append, World.append]
  by_cases happend : w.faults .append
  · simp only [if_pos happend]
  simp only [if_neg happend, hempty, List.nil_append]
  rw [run_bind, run_flush, World.flush]
  by_cases hflush : w.faults .flush
  · simp only [if_pos hflush]
  simp only [if_neg hflush, run_sync, run_close]
  by_cases hsync : w.faults .sync
  · simp only [if_pos hsync, if_pos (Or.inl hsync)]
  simp only [if_neg hsync, or_iff_right hsync]
  rw [close_of_empty rfl]

theorem run_prepare_of_failsWriting (text : String) (hempty : w.unwritten = [])
    (hroot : place ≠ []) (hfile : w.files.content? place = some []) (h : w.FailsWriting) :
    ∃ u, w.run (prepare place text) = (.error World.fault, u) ∧ u.faults = w.faults ∧
      (∃ content, u.files.content? place = some content) ∧
      u.unwritten = if w.faults .append = false ∧ w.faults .flush then Text.encodeUtf8 text
        else [] := by
  rw [run_prepare place text hempty]
  by_cases happend : w.faults .append
  · exact ⟨w, if_pos happend, rfl, ⟨_, hfile⟩, by simp [happend, hempty]⟩
  rw [if_neg happend]
  by_cases hflush : w.faults .flush
  · exact ⟨_, if_pos hflush, rfl, ⟨_, hfile⟩, by simp [happend, hflush]⟩
  have hstop : w.faults .sync ∨ w.faults .close := (h.resolve_left happend).resolve_left hflush
  rw [if_neg hflush, if_pos hstop]
  exact ⟨_, rfl, rfl, ⟨_, Files.content?_eq_some_iff.mpr (Files.find?_put_self hroot _)⟩,
    by simp [hflush]⟩

/-! ## Cleaning up -/

theorem run_abandon (w : World) (place : Place) :
    w.run (Machine.abandon (m := StateM World) place) = w.close .abandon place :=
  rfl

theorem run_giveUp (w : World) (place : Place) (fault : FileFault) :
    w.run (giveUp (m := StateM World) place fault) =
      (.error fault, { w with files := w.files.erase place }) :=
  rfl

/-- If nothing can be written, cleaning up removes a file that nothing is handed over to and that
can be closed, and leaves any other. -/
theorem files_closeAndGiveUp (place : Place) (fault : FileFault)
    (hstuck : w.unwritten ≠ [] → w.faults .flush) :
    (w.run (closeAndGiveUp (m := StateM World) place fault)).2.files =
      if w.faults .abandon ∨ w.unwritten ≠ [] then w.files else w.files.erase place := by
  rw [closeAndGiveUp, run_bind, run_abandon]
  by_cases hempty : w.unwritten = []
  · rw [close_of_empty hempty]
    by_cases habandon : w.faults .abandon <;> simp [habandon, hempty, run_giveUp]
  · rw [close_of_flush (hstuck hempty) hempty, if_pos (.inr hempty)]

/-- A file that was created is empty, and nothing is handed over to it. -/
theorem createTemporary_spec (h : w.createTemporary path = (.ok place, v)) :
    w.files.find? place = none ∧ place ≠ [] ∧ (∃ k, place = beside w.directory path k) ∧
      v.faults = w.faults ∧ v.unwritten = [] ∧ v.files.content? place = some [] := by
  obtain ⟨hplace, rfl⟩ := createTemporary_eq_ok h
  obtain ⟨hbeside, hfree⟩ := temporaryPlace_eq_ok hplace
  have hroot : place ≠ [] := by
    rintro rfl
    cases hfree
  exact ⟨hfree, hroot, hbeside, rfl, rfl,
    Files.content?_eq_some_iff.mpr (Files.find?_put_self hroot _)⟩

/-- A write that fails before the temporary file is moved removes it if it can be closed, and only
then. -/
theorem run_of_failsWriting (text : String) (hcreate : w.createTemporary path = (.ok place, v))
    (h : w.FailsWriting) :
    ∃ reason u, w.run (AtomicWrite.run path text) = (.error reason, u) ∧ AlikeBut place w u ∧
      (w.FailsClosing text → ∃ content, u.files.content? place = some content) ∧
      (¬ w.FailsClosing text → u.files.find? place = none) := by
  obtain ⟨-, hroot, -, hfaults, hempty, hfile⟩ := createTemporary_spec hcreate
  have hwriting : v.FailsWriting := by rwa [FailsWriting, hfaults]
  obtain ⟨u, hprepare, hfaults', hcontent, hunwritten⟩ :=
    run_prepare_of_failsWriting text hempty hroot hfile hwriting
  rw [hfaults] at hfaults' hunwritten
  have hhanded : u.unwritten ≠ [] ↔
      w.faults .append = false ∧ w.faults .flush ∧ text ≠ "" := by
    rw [hunwritten]
    split_ifs with hwritten
    · simp [hwritten, Text.encodeUtf8_eq_nil_iff]
    · exact iff_of_false (absurd rfl) fun h => hwritten ⟨h.1, h.2.1⟩
  have hfails : u.faults .abandon ∨ u.unwritten ≠ [] ↔ w.FailsClosing text := by
    rw [hhanded, hfaults', FailsClosing]
  have hstuck : u.unwritten ≠ [] → u.faults .flush := by
    rw [hfaults', hhanded]
    exact fun h => h.2.1
  have hfiles := files_closeAndGiveUp place World.fault hstuck
  have hwrite : v.run (tryCatch (prepare place text) (closeAndGiveUp place)) =
      u.run (closeAndGiveUp place World.fault) := by rw [run_tryCatch, hprepare]
  have halike := (changesOnly_prepare place text).tryCatch (changesOnly_closeAndGiveUp place) v
  rcases hcleaned : u.run (closeAndGiveUp (m := StateM World) place World.fault) with
    ⟨reason | ⟨⟨⟩⟩, u'⟩
  case ok => exact absurd hcleaned closeAndGiveUp_ne_ok
  rw [hcleaned] at hwrite hfiles
  rw [hwrite] at halike
  refine ⟨reason, u', ?_, (alikeBut_createTemporary hcreate).trans halike, fun hclosing => ?_,
    fun hclosing => ?_⟩
  · exact run_bind_eq_error.mpr (.inr ⟨place, v, hcreate, run_bind_eq_error.mpr (.inl hwrite)⟩)
  · rw [hfiles, if_pos (hfails.mpr hclosing)]
    exact hcontent
  · rw [hfiles, if_neg (mt hfails.mp hclosing)]
    exact Files.find?_erase_self hroot

/-- A write whose temporary file cannot be moved removes it. -/
theorem alikeBut_of_not_failsWriting (hcreate : w.createTemporary path = (.ok place, v))
    (hwriting : ¬ w.FailsWriting) (h : w.run (AtomicWrite.run path text) = (.error fault, u)) :
    AlikeBut place w u ∧ u.files.find? place = none := by
  obtain ⟨-, hroot, -, hfaults, hempty, -⟩ := createTemporary_spec hcreate
  simp only [FailsWriting, not_or] at hwriting
  obtain ⟨happend, hflush, hsync, hclose⟩ := hwriting
  have hprepare := run_prepare place text hempty
  rw [hfaults, if_neg happend, if_neg hflush, if_neg (not_or.mpr ⟨hsync, hclose⟩)] at hprepare
  have hprepared := changesOnly_prepare place text v
  have hwrite : v.run (tryCatch (prepare place text) (closeAndGiveUp place)) =
      v.run (prepare place text) := by rw [run_tryCatch, hprepare]
  rw [hprepare] at hprepared hwrite
  rcases run_bind_eq_error.mp h with herror | ⟨place', v', hcreate', h⟩
  · exact absurd (hcreate.symm.trans herror) (by simp)
  cases hcreate.symm.trans hcreate'
  rcases run_bind_eq_error.mp h with herror | ⟨⟨⟩, written, hwritten, hmove⟩
  · exact absurd (hwrite.symm.trans herror) (by simp)
  cases hwrite.symm.trans hwritten
  rw [run_tryCatch] at hmove
  split at hmove
  · cases hmove
  case h_2 reason left hreplace =>
    rw [replace_eq_error hreplace, run_giveUp] at hmove
    cases hmove
    exact ⟨(alikeBut_createTemporary hcreate).trans
      (hprepared.trans (changesOnly_giveUp place fault _)), Files.find?_erase_self hroot⟩

/-- An atomic write ends in one of two ways, whichever steps fail. If it succeeds, the place of its
path has the text and everything else is as it was. If it fails, that place is as it was, and so is
everything else, except that a temporary file stays that could neither be written nor closed. -/
theorem run_cleanUp (w : World) (path : Path) (text : String) :
    match w.run (AtomicWrite.run path text) with
    | (.ok _, v) =>
      v.files.content? (Files.placeOf w.directory path) = some (Text.encodeUtf8 text) ∧
      AlikeBut (Files.placeOf w.directory path) w v ∧ ¬ w.LeavesTemporary path text
    | (.error _, v) =>
      v.files.find? (Files.placeOf w.directory path) =
        w.files.find? (Files.placeOf w.directory path) ∧
      (¬ w.LeavesTemporary path text → ∀ p, v.files.find? p = w.files.find? p) ∧
      (w.LeavesTemporary path text → ∃ k,
        w.files.find? (beside w.directory path k) = none ∧
        ∃ content, v.files.content? (beside w.directory path k) = some content) := by
  rcases hrun : w.run (AtomicWrite.run path text) with ⟨reason | ⟨⟨⟩⟩, v⟩
  case ok =>
    obtain ⟨halike, hcontent⟩ := run_eq_ok hrun
    refine ⟨hcontent, halike, ?_⟩
    rintro ⟨⟨place, hplace⟩, hwriting, -⟩
    obtain ⟨reason, u, herror, -⟩ := run_of_failsWriting text
      (Prod.ext hplace rfl : w.createTemporary path = (.ok place, _)) hwriting
    rw [hrun] at herror
    cases herror
  obtain ⟨k, hbeside⟩ := run_eq_error hrun
  refine ⟨hbeside.find? _ (placeOf_ne_beside _ _ _), ?_⟩
  rcases hcreate : w.createTemporary path with ⟨fault | place, w₁⟩
  case error =>
    have hleaves : ¬ w.LeavesTemporary path text := by
      rintro ⟨⟨place, hplace⟩, -⟩
      rw [hcreate] at hplace
      cases hplace
    have hfailed : w.run (AtomicWrite.run path text) = (.error fault, w₁) :=
      run_bind_eq_error.mpr (.inl hcreate)
    cases hrun.symm.trans hfailed
    rw [createTemporary_eq_error hcreate]
    exact ⟨fun _ _ => rfl, fun h => absurd h hleaves⟩
  obtain ⟨hfree, -, ⟨k, rfl⟩, -⟩ := createTemporary_spec hcreate
  have hcreated : ∃ place, (w.createTemporary path).1 = .ok place := ⟨_, by rw [hcreate]⟩
  by_cases hwriting : w.FailsWriting
  · obtain ⟨_, _, herror, halike, hleft, hgone⟩ :=
      run_of_failsWriting text hcreate hwriting
    cases hrun.symm.trans herror
    refine ⟨fun hleaves => halike.find?_eq hfree (hgone fun hclosing => ?_),
      fun hleaves => ⟨k, hfree, hleft hleaves.2.2⟩⟩
    exact hleaves ⟨hcreated, hwriting, hclosing⟩
  · obtain ⟨halike, hgone⟩ := alikeBut_of_not_failsWriting hcreate hwriting hrun
    exact ⟨fun _ => halike.find?_eq hfree hgone, fun hleaves => absurd hleaves.2.1 hwriting⟩

/-- When nothing can be written, as on a full disk, a temporary file stays beside the path. -/
theorem run_full_disk :
    let w : World := { faults := fun step => step = .flush }
    w.files.find? [".out.py.00000000.tmp"] = none ∧
    ∃ reason v content, w.run (AtomicWrite.run (.ofText "out.py") "x") = (.error reason, v) ∧
      v.files.content? [".out.py.00000000.tmp"] = some content := by
  intro w
  have hcreate : w.createTemporary (.ofText "out.py") = (.ok [".out.py.00000000.tmp"],
      { w with files := w.files.put [".out.py.00000000.tmp"] (.file []), unwritten := [] }) := rfl
  obtain ⟨reason, v, hrun, -, hleft, -⟩ :=
    run_of_failsWriting "x" hcreate (.inr (.inl rfl))
  obtain ⟨content, hcontent⟩ := hleft (.inr ⟨rfl, rfl, by decide⟩)
  exact ⟨rfl, reason, v, content, hrun, hcontent⟩

end Routewright.AtomicWrite
