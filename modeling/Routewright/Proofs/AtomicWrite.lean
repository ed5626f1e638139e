import Routewright.Proofs.Files
import Routewright.Proofs.Reading

/-!
# Atomic writes on described machines

Whichever steps of an atomic write fail, it ends in one of two ways. If it succeeds, the place of
its path has the text and every other place is as it was (`AtomicWrite.run_eq_ok`). If it fails,
nothing but a temporary file beside the path may have changed (`AtomicWrite.run_eq_error`), and that
is never at the place of the path (`World.placeOf_ne_beside`).
-/

namespace Routewright.World

variable {α ε : Type} {w v u : World} {place : Place} {path : Path} {text : String}

theorem run_tryCatch (w : World) (x : ExceptT ε (StateM World) α)
    (handler : ε → ExceptT ε (StateM World) α) :
    w.run (tryCatch x handler) = match w.run x with
      | (.ok a, v) => (.ok a, v)
      | (.error e, v) => v.run (handler e) := by
  unfold run
  rw [ExceptT.run_tryCatch, StateT.run_bind]
  rcases StateT.run x.run w with ⟨_ | a, v⟩ <;> rfl

/-- What succeeds under a handler that always fails has succeeded by itself. -/
theorem run_of_tryCatch {x : ExceptT ε (StateM World) α} {handler : ε → ExceptT ε (StateM World) α}
    {a : α} (hhandler : ∀ e (u : World), u.run (handler e) ≠ (.ok a, v))
    (h : w.run (tryCatch x handler) = (.ok a, v)) : w.run x = (.ok a, v) := by
  rw [run_tryCatch] at h
  split at h
  case h_1 hrun => rw [hrun, h]
  case h_2 => exact absurd h (hhandler _ _)

/-- Whether worlds differ in nothing but what is at a place and what is to be written there. -/
structure AlikeBut (place : Place) (w v : World) : Prop where
  fixed : v.fixed = w.fixed
  find? : ∀ p, p ≠ place → v.files.find? p = w.files.find? p

namespace AlikeBut

theorem refl (place : Place) (w : World) : AlikeBut place w w :=
  ⟨rfl, fun _ _ => rfl⟩

theorem trans (hwv : AlikeBut place w v) (hvu : AlikeBut place v u) : AlikeBut place w u :=
  ⟨hvu.fixed.trans hwv.fixed, fun p hp => (hvu.find? p hp).trans (hwv.find? p hp)⟩

end AlikeBut

/-! ## Places of temporary files -/

/-- The place of a temporary file beside the file of a path. -/
def beside (directory : Place) (path : Path) (k : Nat) : Place :=
  Files.placeOf directory path.parent ++ [temporaryName path.name k]

/-- A temporary file is created where nothing is. -/
theorem temporaryPlace_eq_ok (h : w.temporaryPlace path = .ok place) :
    (∃ k, place = beside w.directory path k) ∧ w.files.find? place = none := by
  unfold temporaryPlace at h
  split at h
  · cases h
  case h_2 above habove =>
    split_ifs at h
    dsimp only at h
    split at h
    · cases h
    case h_2 k hk =>
      split at h
      · cases h
      · cases h
        rw [← Files.placeOf_of_locate habove] at hk ⊢
        have hfree := List.find?_some hk
        exact ⟨⟨k, rfl⟩, Option.isNone_iff_eq_none.mp hfree⟩

/-- The name of a temporary file is longer than the name that it is made for. -/
theorem temporaryName_ne (name : String) (k : Nat) : temporaryName name k ≠ name := by
  intro h
  have hlength := congrArg (fun s => s.toList.length) h
  have hdot : ("." : String).toList.length = 1 := rfl
  simp only [temporaryName, String.toList_append, List.length_append] at hlength
  omega

/-- A file is never in place of a temporary file for it: that has another name, and a path that ends
with double dots leads to a place further up. -/
theorem placeOf_ne_beside (directory : Place) (path : Path) (k : Nat) :
    Files.placeOf directory path ≠ beside directory path k := by
  obtain ⟨anchor, names⟩ := path
  rcases List.eq_nil_or_concat names with rfl | ⟨names, name, rfl⟩
  · exact fun h => nomatch List.self_eq_append_right.mp h
  · rw [List.concat_eq_append]
    have hplace : Files.placeOf directory ⟨anchor, names ++ [name]⟩ =
        Files.follow (Files.placeOf directory ⟨anchor, names⟩) name := List.foldl_concat ..
    have hbeside : beside directory ⟨anchor, names ++ [name]⟩ k =
        Files.placeOf directory ⟨anchor, names⟩ ++ [temporaryName name k] := by
      simp [beside, Path.parent, Path.name]
    rw [hplace, hbeside, Files.follow]
    split_ifs
    · intro h
      have hlength := congrArg List.length h
      simp only [List.length_dropLast, List.length_append, List.length_singleton] at hlength
      omega
    · intro h
      exact temporaryName_ne name k (List.singleton_inj.mp (List.append_cancel_left h)).symm

/-! ## Steps -/

/-- Whether a task changes nothing but what is at a place. -/
def ChangesOnly (place : Place) (x : ExceptT ε (StateM World) α) : Prop :=
  ∀ w : World, AlikeBut place w (w.run x).2

theorem ChangesOnly.bind {β : Type} {x : ExceptT ε (StateM World) α}
    {f : α → ExceptT ε (StateM World) β} (hx : ChangesOnly place x)
    (hf : ∀ a, ChangesOnly place (f a)) : ChangesOnly place (x >>= f) :=
  fun w => rel_run_bind (R := AlikeBut place) AlikeBut.trans (hx w) fun a v _ => hf a v

theorem ChangesOnly.tryCatch {x : ExceptT ε (StateM World) α}
    {handler : ε → ExceptT ε (StateM World) α} (hx : ChangesOnly place x)
    (hhandler : ∀ e, ChangesOnly place (handler e)) :
    ChangesOnly place (tryCatch x handler) := by
  intro w
  have hx := hx w
  rw [run_tryCatch]
  rcases hrun : w.run x with ⟨e | _, v⟩ <;> rw [hrun] at hx
  · exact hx.trans (hhandler e v)
  · exact hx

theorem changesOnly_append (place file : Place) (text : String) :
    ChangesOnly place (Machine.append (m := StateM World) file text) := by
  intro w
  change AlikeBut place w (w.append text).2
  unfold append
  split <;> exact ⟨rfl, fun _ _ => rfl⟩

theorem changesOnly_flush (place : Place) :
    ChangesOnly place (Machine.flush (m := StateM World) place) := by
  intro w
  change AlikeBut place w (w.flush place).2
  unfold flush
  split
  · exact .refl place w
  · exact ⟨rfl, fun p hp => Files.find?_put_of_ne hp _⟩

/-- A file is closed whatever happens, and what was not written before is written to it or lost. -/
theorem alikeBut_close (w : World) (step : WriteStep) (place : Place) :
    AlikeBut place w (w.close step place).2 := by
  have hflush : AlikeBut place w (w.flush place).2 := changesOnly_flush place w
  unfold close
  by_cases hempty : w.unwritten.isEmpty
  · simp only [if_pos hempty]
    split <;> exact ⟨rfl, fun _ _ => rfl⟩
  · simp only [if_neg hempty]
    split
    · exact ⟨hflush.fixed, hflush.find?⟩
    · split <;> exact ⟨hflush.fixed, hflush.find?⟩

theorem changesOnly_close (place : Place) :
    ChangesOnly place (Machine.close (m := StateM World) place) :=
  fun w => alikeBut_close w .close place

theorem changesOnly_abandon (place : Place) :
    ChangesOnly place (Machine.abandon (m := StateM World) place) :=
  fun w => alikeBut_close w .abandon place

theorem changesOnly_sync (place file : Place) :
    ChangesOnly place (Machine.sync (m := StateM World) file) :=
  fun w => .refl place w

/-! ## Steps that succeed -/

theorem append_eq_ok (h : w.append text = (.ok (), v)) :
    v = { w with unwritten := w.unwritten ++ Text.encodeUtf8 text } := by
  unfold append at h
  split_ifs at h <;> cases h
  rfl

theorem flush_eq_ok (h : w.flush place = (.ok (), v)) :
    v = { w with
      files := w.files.put place (.file ((w.files.content? place).getD [] ++ w.unwritten))
      unwritten := [] } := by
  unfold flush at h
  split_ifs at h <;> cases h
  rfl

/-- Closing a file to which all is written leaves the files. -/
theorem files_of_close (hempty : w.unwritten = []) (h : w.close .close place = (.ok (), v)) :
    v.files = w.files := by
  unfold close at h
  simp only [hempty, List.isEmpty_nil, if_true] at h
  split_ifs at h <;> cases h
  rfl

theorem createTemporary_eq_ok (h : w.createTemporary path = (.ok place, v)) :
    w.temporaryPlace path = .ok place ∧
      v = { w with files := w.files.put place (.file []), unwritten := [] } := by
  unfold createTemporary at h
  split_ifs at h
  · cases h
  split at h
  · cases h
  case h_2 hplace =>
    cases h
    exact ⟨hplace, rfl⟩

theorem createTemporary_eq_error {fault : FileFault}
    (h : w.createTemporary path = (.error fault, v)) : v = w := by
  unfold createTemporary at h
  split_ifs at h
  · cases h
    rfl
  · split at h <;> cases h
    rfl

/-- What is at a place replaces what is at the place of a path, and nothing stays where it was. -/
theorem replace_eq_ok (h : w.replace place path = (.ok (), v)) :
    ∃ content target, w.files.content? place = some content ∧
      Files.placeOf w.directory path = target ∧ target ≠ [] ∧
      v = { w with files := (w.files.erase place).put target (.file content) } := by
  unfold replace at h
  split_ifs at h
  · cases h
  split at h
  · cases h
  case h_2 content hcontent =>
    cases hwritable : (w.files.erase place).writable w.directory path with
    | error fault =>
      rw [hwritable] at h
      cases h
    | ok target =>
      rw [hwritable] at h
      cases h
      obtain ⟨htarget, hdirectory⟩ := Files.placeOf_of_writable hwritable
      refine ⟨content, target, hcontent, htarget, ?_, rfl⟩
      rintro rfl
      exact hdirectory (Files.find?_root _)

theorem replace_eq_error {fault : FileFault} (h : w.replace place path = (.error fault, v)) :
    v = w := by
  unfold replace at h
  split_ifs at h
  · cases h
    rfl
  · split at h
    · cases h
      rfl
    · cases hwritable : (w.files.erase place).writable w.directory path <;>
        rw [hwritable] at h <;> cases h
      rfl

end Routewright.World

namespace Routewright.AtomicWrite

open World

variable {w v u : World} {place : Place} {path : Path} {text : String} {fault : FileFault}

/-- Writes a temporary file and closes it. -/
def prepare (file : Place) (text : String) : FileTask (StateM World) Unit := do
  fill file text
  Machine.close file

theorem changesOnly_prepare (place : Place) (text : String) :
    ChangesOnly place (prepare place text) :=
  .bind (.bind (changesOnly_append place place text) fun _ =>
    .bind (changesOnly_flush place) fun _ => changesOnly_sync place place) fun _ =>
      changesOnly_close place

theorem changesOnly_giveUp (place : Place) (fault : FileFault) :
    ChangesOnly place (giveUp (m := StateM World) place fault) :=
  fun _ => ⟨rfl, fun _ hp => Files.find?_erase_of_ne hp⟩

theorem changesOnly_closeAndGiveUp (place : Place) (fault : FileFault) :
    ChangesOnly place (closeAndGiveUp (m := StateM World) place fault) :=
  .bind (changesOnly_abandon place) fun _ => changesOnly_giveUp place fault

theorem giveUp_ne_ok : w.run (giveUp (m := StateM World) place fault) ≠ (.ok (), v) :=
  fun h => nomatch congrArg Prod.fst h

theorem closeAndGiveUp_ne_ok :
    w.run (closeAndGiveUp (m := StateM World) place fault) ≠ (.ok (), v) := by
  intro h
  obtain ⟨_, _, -, h⟩ := run_bind_eq_ok.mp h
  exact giveUp_ne_ok h

/-- What was prepared is in the temporary file. -/
theorem content?_of_prepare (hempty : w.unwritten = []) (hfile : w.files.content? place = some [])
    (h : w.run (prepare place text) = (.ok (), v)) :
    v.files.content? place = some (Text.encodeUtf8 text) := by
  have hroot : place ≠ [] := by
    rintro rfl
    cases hfile
  obtain ⟨_, u, hfill, hclose⟩ := run_bind_eq_ok.mp h
  obtain ⟨_, u₁, happend, hfill⟩ := run_bind_eq_ok.mp hfill
  obtain ⟨_, u₂, hflush, hsync⟩ := run_bind_eq_ok.mp hfill
  have happend : u₁ = _ := append_eq_ok happend
  have hflush : u₂ = _ := flush_eq_ok hflush
  have hsync : u₂ = u := congrArg Prod.snd hsync
  have hunwritten : u.unwritten = [] := by rw [← hsync, hflush]
  rw [files_of_close hunwritten hclose, ← hsync, hflush, Files.content?_eq_some_iff,
    Files.find?_put_self hroot, happend]
  simp only [hfile, hempty, Option.getD_some, List.nil_append]

/-! ## Whole writes -/

theorem alikeBut_createTemporary (h : w.createTemporary path = (.ok place, v)) :
    AlikeBut place w v := by
  obtain ⟨-, rfl⟩ := createTemporary_eq_ok h
  exact ⟨rfl, fun _ hp => Files.find?_put_of_ne hp _⟩

/-- An atomic write that succeeds puts the text at the place of its path. Everything else is as it
was : the temporary file was put where nothing had been, and is gone. -/
theorem run_eq_ok (h : w.run (AtomicWrite.run path text) = (.ok (), v)) :
    AlikeBut (Files.placeOf w.directory path) w v ∧
      v.files.content? (Files.placeOf w.directory path) = some (Text.encodeUtf8 text) := by
  obtain ⟨temporary, w₁, hcreate, h⟩ := run_bind_eq_ok.mp h
  obtain ⟨⟨⟩, w₂, hprepare, hreplace⟩ := run_bind_eq_ok.mp h
  have hprepare : w₁.run (prepare temporary text) = (.ok (), w₂) :=
    run_of_tryCatch (fun _ _ => closeAndGiveUp_ne_ok) hprepare
  have hreplace : w₂.replace temporary path = (.ok (), v) :=
    run_of_tryCatch (fun _ _ => giveUp_ne_ok) hreplace
  obtain ⟨hplace, hw₁⟩ := createTemporary_eq_ok hcreate
  obtain ⟨-, hfree⟩ := temporaryPlace_eq_ok hplace
  have htemporary : temporary ≠ [] := by
    rintro rfl
    cases hfree
  have hcontent : w₂.files.content? temporary = some (Text.encodeUtf8 text) := by
    refine content?_of_prepare ?_ ?_ hprepare <;> rw [hw₁]
    exact Files.content?_eq_some_iff.mpr (Files.find?_put_self htemporary _)
  have hw₂ : AlikeBut temporary w w₂ := by
    have h₂ := changesOnly_prepare temporary text w₁
    rw [hprepare] at h₂
    exact (alikeBut_createTemporary hcreate).trans h₂
  obtain ⟨content, target, hfound, htarget, hroot, rfl⟩ := replace_eq_ok hreplace
  obtain rfl : content = _ := Option.some.inj (hfound.symm.trans hcontent)
  rw [directory_eq_of_fixed hw₂.fixed] at htarget
  subst htarget
  refine ⟨⟨hw₂.fixed, fun p hp => ?_⟩, ?_⟩
  case refine_2 => exact Files.content?_eq_some_iff.mpr (Files.find?_put_self hroot _)
  rw [Files.find?_put_of_ne hp]
  -- Nothing was where the temporary file is put, and nothing is there once it is moved away.
  by_cases hp' : p = temporary
  · rw [hp', Files.find?_erase_self htemporary, hfree]
  · rw [Files.find?_erase_of_ne hp', hw₂.find? p hp']

/-- An atomic write that fails leaves everything but its temporary file. -/
theorem run_eq_error (h : w.run (AtomicWrite.run path text) = (.error fault, v)) :
    ∃ k, AlikeBut (beside w.directory path k) w v := by
  rcases run_bind_eq_error.mp h with hcreate | ⟨temporary, w₁, hcreate, h⟩
  · rw [createTemporary_eq_error hcreate]
    exact ⟨0, .refl _ w⟩
  obtain ⟨⟨k, rfl⟩, -⟩ := temporaryPlace_eq_ok (createTemporary_eq_ok hcreate).1
  refine ⟨k, (alikeBut_createTemporary hcreate).trans ?_⟩
  have hwriting := (changesOnly_prepare (beside w.directory path k) text).tryCatch
    (changesOnly_closeAndGiveUp _) w₁
  rcases run_bind_eq_error.mp h with hprepare | ⟨⟨⟩, w₂, hprepare, hreplace⟩
  · rwa [prepare, hprepare] at hwriting
  · rw [prepare, hprepare] at hwriting
    rw [run_tryCatch] at hreplace
    split at hreplace
    · cases hreplace
    case h_2 reason u hreplace' =>
      rw [replace_eq_error hreplace'] at hreplace
      have hdiscard := changesOnly_giveUp (beside w.directory path k) reason w₂
      rw [hreplace] at hdiscard
      exact hwriting.trans hdiscard

end Routewright.AtomicWrite
