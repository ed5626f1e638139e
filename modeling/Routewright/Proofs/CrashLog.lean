import Routewright.Program
import Routewright.Proofs.AtomicWrite

/-!
# Crash logs

The place of a crash log follows from what no run changes (`crashLog?_eq_of_fixed`), so it is known
before anything goes wrong. However a command ends, telling of its end leaves every file or puts the
crash log there (`sparesBut_conclude`), and the exit code is that of success only for a command that
succeeded (`of_conclude_eq_success`).
-/

namespace Routewright

variable {α β : Type} {w v u : World}

namespace World

/-! ## What a run may change -/

/-- Whether worlds differ in nothing but what was read, told and logged, in directories that are
where nothing was, and at exempt places. -/
structure KeepsBut (exempt : Place → Prop) (w v : World) : Prop where
  fixed : v.fixed = w.fixed
  keepsAt : ∀ place, ¬exempt place → w.files.KeepsAt v.files place

variable {exempt more : Place → Prop}

theorem KeepsBut.trans (hwv : KeepsBut exempt w v) (hvu : KeepsBut exempt v u) :
    KeepsBut exempt w u :=
  ⟨hvu.fixed.trans hwv.fixed, fun place h => (hwv.keepsAt place h).trans (hvu.keepsAt place h)⟩

theorem KeepsBut.mono (h : ∀ place, exempt place → more place) (hwv : KeepsBut exempt w v) :
    KeepsBut more w v :=
  ⟨hwv.fixed, fun place hplace => hwv.keepsAt place (mt (h place) hplace)⟩

theorem Alike.keepsBut (h : w.Alike v) : KeepsBut exempt w v :=
  ⟨h.fixed, fun place _ => h.files ▸ .refl w.files place⟩

theorem AlikeBut.keepsBut {place : Place} (h : AlikeBut place w v) : KeepsBut (· = place) w v :=
  ⟨h.fixed, fun p hp => .inl (h.find? p hp)⟩

/-- Making directories exempts no place. -/
theorem keepsBut_makeDirectories (w : World) (path : Path) :
    KeepsBut exempt w (w.makeDirectories path).2 := by
  have hkeeps := Files.keepsAt_makeDirectories w.files w.directory path
  unfold makeDirectories
  cases hmade : w.files.makeDirectories w.directory path with
  | ok files =>
    rw [hmade] at hkeeps
    exact ⟨rfl, fun place _ => hkeeps place⟩
  | error fault =>
    rw [hmade] at hkeeps
    exact ⟨rfl, fun place _ => hkeeps place⟩

end World

open World

/-! ## The place of the crash log -/

/-- Whether what a task gives follows from what is fixed, and it changes nothing. -/
def Steady (x : FileTask (StateM World) α) : Prop :=
  ∀ w : World, w.run x = ((w.fixed.run x).1, w)

theorem Steady.bind {x : FileTask (StateM World) α} {f : α → FileTask (StateM World) β}
    (hx : Steady x) (hf : ∀ a, Steady (f a)) : Steady (x >>= f) := by
  intro w
  have hfixed : w.fixed.run x = ((w.fixed.run x).1, w.fixed) := hx w.fixed
  rw [run_bind, run_bind w.fixed, hx w, hfixed]
  cases (w.fixed.run x).1 with
  | ok a => exact hf a w
  | error fault => rfl

namespace DataDirectory

theorem steady_home : Steady home := by
  refine .bind (fun _ => rfl) fun named => ?_
  cases named with
  | some s =>
    dsimp only
    split <;> exact fun _ => rfl
  | none => exact .bind (fun _ => rfl) fun _ _ => rfl

theorem steady_userData : Steady userData := by
  refine .bind (fun _ => rfl) fun named => ?_
  dsimp only
  split
  · exact .bind steady_home fun _ _ => rfl
  · exact fun _ => rfl

/-- The data directory follows from what is fixed. -/
theorem steady_path : Steady path := by
  refine .bind (fun _ => rfl) fun platform => ?_
  split
  · exact .bind steady_userData fun _ _ => rfl
  · exact .bind steady_home fun _ _ => rfl

end DataDirectory

namespace World

/-- The place where a run describes what it did not expect, if the data directory is known. -/
def crashLog? (w : World) : Option Place :=
  match (w.run DataDirectory.path).1 with
  | .ok path => some (Files.placeOf w.directory
      ((path.child "logs").child ("crash-" ++ w.timestamp ++ ".log")))
  | .error _ => none

theorem crashLog?_eq_of_fixed (h : v.fixed = w.fixed) : v.crashLog? = w.crashLog? := by
  have htimestamp : v.timestamp = w.timestamp := (congrArg timestamp h :)
  unfold crashLog?
  rw [DataDirectory.steady_path v, DataDirectory.steady_path w, h, htimestamp,
    directory_eq_of_fixed h]

/-- Whether the place of the crash log is the given one, and a problem is described there. -/
def HoldsCrashLog (w : World) (place : Place) : Prop :=
  w.crashLog? = some place ∧
    ∃ p : Problem, w.files.content? place = some (Text.encodeUtf8 (p.description ++ "\n"))

theorem HoldsCrashLog.of_keepsAt {place : Place} (h : w.HoldsCrashLog place)
    (hfixed : v.fixed = w.fixed) (hkeeps : w.files.KeepsAt v.files place) :
    v.HoldsCrashLog place := by
  obtain ⟨hplace, p, hcontent⟩ := h
  exact ⟨(crashLog?_eq_of_fixed hfixed).trans hplace, p, hkeeps.content?_eq.trans hcontent⟩

/-- Whether worlds differ in nothing but what was read, told and logged, in directories that are
where nothing was, at exempt places, and in that a crash log is there. -/
structure SparesBut (exempt : Place → Prop) (w v : World) : Prop where
  fixed : v.fixed = w.fixed
  spares : ∀ place, ¬exempt place → w.files.KeepsAt v.files place ∨ v.HoldsCrashLog place

variable {exempt : Place → Prop}

theorem KeepsBut.sparesBut (h : KeepsBut exempt w v) : SparesBut exempt w v :=
  ⟨h.fixed, fun place hplace => .inl (h.keepsAt place hplace)⟩

theorem SparesBut.refl (w : World) : SparesBut exempt w w :=
  ⟨rfl, fun place _ => .inl (.refl w.files place)⟩

/-- A crash log that is there is kept. -/
theorem SparesBut.trans (hwv : SparesBut exempt w v) (hvu : SparesBut exempt v u) :
    SparesBut exempt w u := by
  refine ⟨hvu.fixed.trans hwv.fixed, fun place hplace => ?_⟩
  rcases hvu.spares place hplace with hkeeps | hlog
  · rcases hwv.spares place hplace with hkept | hlog
    · exact .inl (hkept.trans hkeeps)
    · exact .inr (hlog.of_keepsAt hvu.fixed hkeeps)
  · exact .inr hlog

/-- What every part of a task spares is spared by the whole, whether or not a part fails. -/
theorem sparesBut_bind {ε : Type} {x : ExceptT ε (StateM World) α}
    {f : α → ExceptT ε (StateM World) β} (hx : SparesBut exempt w (w.run x).2)
    (hf : ∀ a v, w.run x = (.ok a, v) → SparesBut exempt v (v.run (f a)).2) :
    SparesBut exempt w (w.run (x >>= f)).2 :=
  rel_run_bind (R := SparesBut exempt) SparesBut.trans hx hf

end World

/-! ## Writing the crash log -/

namespace Program

variable {exempt : Place → Prop}

/-- What is written to the path of the crash log to describe a problem is a crash log. -/
theorem sparesBut_write {path : Path} (p : Problem)
    (h : w.crashLog? = some (Files.placeOf w.directory path)) :
    SparesBut exempt w
      (w.run (Machine.write (m := StateM World) path (p.description ++ "\n"))).2 := by
  let text := Text.encodeUtf8 (p.description ++ "\n")
  change SparesBut exempt w (w.withFiles (w.files.write w.directory path text)).2
  cases hwrite : w.files.write w.directory path text with
  | error fault => exact ⟨rfl, fun place _ => .inl (.refl w.files place)⟩
  | ok files =>
    refine ⟨rfl, fun place _ => ?_⟩
    by_cases hplace : place = Files.placeOf w.directory path
    · subst hplace
      have hlog := crashLog?_eq_of_fixed (show { w with files }.fixed = w.fixed from rfl)
      exact .inr ⟨hlog.trans h, p, Files.content?_of_write hwrite⟩
    · exact .inl (.inl (Files.find?_of_write hwrite hplace))

theorem fixed_of_makeDirectories {path : Path} {r : Except FileFault Unit}
    (h : w.run (Machine.makeDirectories (m := StateM World) path) = (r, v)) :
    v.fixed = w.fixed := by
  obtain rfl : (w.makeDirectories path).2 = v := congrArg Prod.snd h
  exact (keepsBut_makeDirectories w path : KeepsBut (fun _ => False) w _).fixed

/-- The data directory, once made, is the one that the crash log goes by. -/
theorem make_eq_ok {data : Path}
    (h : w.run (DataDirectory.make (m := StateM World)) = (.ok data, v)) :
    (w.run DataDirectory.path).1 = .ok data ∧ v.fixed = w.fixed := by
  obtain ⟨path, u, hpath, h⟩ := run_bind_eq_ok.mp h
  obtain ⟨_, u', hmade, h⟩ := run_bind_eq_ok.mp h
  obtain ⟨rfl, rfl⟩ : path = data ∧ u' = v := by
    obtain ⟨hok, hworld⟩ := Prod.mk.inj h
    exact ⟨Except.ok.inj hok, hworld⟩
  refine ⟨congrArg Prod.fst hpath, (fixed_of_makeDirectories hmade).trans ?_⟩
  rw [DataDirectory.steady_path w] at hpath
  rw [(Prod.mk.inj hpath).2]

/-- Describing something unexpected spares everything but the file that is its crash log. -/
theorem sparesBut_writeCrashLog (w : World) (p : Problem) :
    SparesBut exempt w (w.run (writeCrashLog (m := StateM World) p)).2 := by
  refine sparesBut_bind ?_ fun data w₁ hdata =>
    sparesBut_bind (keepsBut_makeDirectories w₁ _).sparesBut fun _ w₂ hlogs =>
    sparesBut_bind (.refl w₂) fun time w₃ htime =>
    sparesBut_bind ?_ fun _ w₄ _ => .refl w₄
  · refine sparesBut_bind ?_ fun data u _ =>
      sparesBut_bind (keepsBut_makeDirectories u data).sparesBut fun _ u' _ => .refl u'
    rw [DataDirectory.steady_path w]
    exact .refl w
  -- The path that is written to is that of the world before, since nothing fixed has changed.
  · obtain ⟨hpath, hfixed⟩ := make_eq_ok hdata
    have hfixed : w₂.fixed = w.fixed := (fixed_of_makeDirectories hlogs).trans hfixed
    obtain ⟨hstamp, rfl⟩ : w₂.timestamp = time ∧ w₂ = w₃ := by
      obtain ⟨hok, hworld⟩ := Prod.mk.inj htime
      exact ⟨Except.ok.inj hok, hworld⟩
    have htimestamp : w₂.timestamp = w.timestamp := (congrArg timestamp hfixed :)
    refine sparesBut_write p ?_
    rw [crashLog?_eq_of_fixed hfixed, crashLog?, hpath, ← hstamp, htimestamp,
      directory_eq_of_fixed hfixed]

/-! ## The end of a run -/

theorem sparesBut_error (console : Console) (w : World) (message : String) :
    SparesBut exempt w
      (w.run (ExceptT.lift (console.error (m := StateM World) message) : FileTask _ Unit)).2 :=
  (Alike.keepsBut ((console.onlyReads_error message).lift.alike w)).sparesBut

theorem sparesBut_reportCrash (console : Console) (w : World) (p : Problem) :
    SparesBut exempt w (w.run (reportCrash (m := StateM World) console p)).2 :=
  sparesBut_bind (sparesBut_writeCrashLog w p) fun _ v _ =>
    sparesBut_bind (sparesBut_error console v _) fun _ u _ => .refl u

/-- Telling how a command ended changes no file but the crash log. -/
theorem sparesBut_conclude (console : Console) (w : World) :
    ∀ result : Except Problem Unit,
      SparesBut exempt w (w.run (conclude (m := StateM World) console result)).2
  | .ok _ => .refl w
  | .error (.failure _) => sparesBut_bind (sparesBut_error console w _) fun _ u _ => .refl u
  | .error (.invalid _) => sparesBut_reportCrash console w _
  | .error (.irregular _) => sparesBut_reportCrash console w _
  | .error (.file _) => sparesBut_reportCrash console w _
  | .error .noLine => sparesBut_reportCrash console w _

theorem reportCrash_ne_success {console : Console} {p : Problem} :
    w.run (reportCrash (m := StateM World) console p) ≠ (.ok ExitCode.success, v) := by
  intro h
  obtain ⟨_, _, -, h⟩ := run_bind_eq_ok.mp h
  obtain ⟨_, _, -, h⟩ := run_bind_eq_ok.mp h
  exact nomatch congrArg Prod.fst h

/-- Every failure has a code of its own that tells of it. -/
theorem exitCode_ne_success (f : Failure) : f.exitCode ≠ ExitCode.success := by
  cases f <;> exact Nat.succ_ne_zero _

/-- A run ends with the code for success only if its command succeeded. -/
theorem of_conclude_eq_success {console : Console} :
    ∀ {result : Except Problem Unit},
      w.run (conclude (m := StateM World) console result) = (.ok ExitCode.success, v) →
        result = .ok ()
  | .ok (), _ => rfl
  | .error (.failure f), h => by
    obtain ⟨_, _, -, h⟩ := run_bind_eq_ok.mp h
    exact absurd (Except.ok.inj (Prod.mk.inj h).1) (exitCode_ne_success f)
  | .error (.invalid _), h => absurd h reportCrash_ne_success
  | .error (.irregular _), h => absurd h reportCrash_ne_success
  | .error (.file _), h => absurd h reportCrash_ne_success
  | .error .noLine, h => absurd h reportCrash_ne_success

end Program

end Routewright
