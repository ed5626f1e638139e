import Routewright.Compilation
import Routewright.World

/-!
# Runs that only read

What a described machine is after a task. Settings are found, descriptions loaded and code generated
without anything printed or any file touched (`onlyReads_resolve`, `onlyReads_compile`), whether or
not that succeeds.
-/

namespace Routewright

variable {α β ε ε' : Type}

/-! ## Tasks on a described machine -/

namespace World

/-- What a task ends with on a described machine, and the machine after it. -/
def run (w : World) (x : ExceptT ε (StateM World) α) : Except ε α × World :=
  x.run.run w

/-- A task goes on where another one ends, unless that fails. -/
theorem run_bind (w : World) (x : ExceptT ε (StateM World) α)
    (f : α → ExceptT ε (StateM World) β) :
    w.run (x >>= f) = match w.run x with
      | (.ok a, v) => v.run (f a)
      | (.error e, v) => (.error e, v) := by
  change (ExceptT.bindCont f (w.run x).1).run (w.run x).2 = _
  rcases w.run x with ⟨_ | a, v⟩ <;> rfl

theorem run_bind_eq_ok {w v : World} {x : ExceptT ε (StateM World) α}
    {f : α → ExceptT ε (StateM World) β} {b : β} :
    w.run (x >>= f) = (.ok b, v) ↔
      ∃ a u, w.run x = (.ok a, u) ∧ u.run (f a) = (.ok b, v) := by
  rw [run_bind]
  rcases w.run x with ⟨_ | a, u⟩ <;> simp [and_assoc]

theorem run_bind_eq_error {w v : World} {x : ExceptT ε (StateM World) α}
    {f : α → ExceptT ε (StateM World) β} {e : ε} :
    w.run (x >>= f) = (.error e, v) ↔
      w.run x = (.error e, v) ∨ ∃ a u, w.run x = (.ok a, u) ∧ u.run (f a) = (.error e, v) := by
  rw [run_bind]
  rcases w.run x with ⟨_ | a, u⟩ <;> simp [and_assoc]

/-- What goes on along each part of a task goes on along the whole, whether or not a part fails. -/
theorem rel_run_bind {R : World → World → Prop} (htrans : ∀ {w v u}, R w v → R v u → R w u)
    {w : World} {x : ExceptT ε (StateM World) α} {f : α → ExceptT ε (StateM World) β}
    (hx : R w (w.run x).2) (hf : ∀ a v, w.run x = (.ok a, v) → R v (v.run (f a)).2) :
    R w (w.run (x >>= f)).2 := by
  rw [run_bind]
  rcases hrun : w.run x with ⟨e | a, v⟩ <;> rw [hrun] at hx
  · exact hx
  · exact htrans hx (hf a v hrun)

/-- A world without its files and without what was read, told and logged. Of the rest, tasks change
only what was printed. -/
def fixed (w : World) : World :=
  { w with files := {}, input := "", unwritten := [], reported := "", logged := [] }

theorem directory_eq_of_fixed {w v : World} (h : v.fixed = w.fixed) : v.directory = w.directory :=
  (congrArg directory h :)

theorem printed_eq_of_fixed {w v : World} (h : v.fixed = w.fixed) : v.printed = w.printed :=
  (congrArg printed h :)

/-- Whether worlds differ in nothing but what was read, told and logged. -/
structure Alike (w v : World) : Prop where
  fixed : v.fixed = w.fixed
  files : v.files = w.files

namespace Alike

variable {w v u : World}

theorem refl (w : World) : Alike w w :=
  ⟨rfl, rfl⟩

theorem trans (hwv : Alike w v) (hvu : Alike v u) : Alike w u :=
  ⟨hvu.fixed.trans hwv.fixed, hvu.files.trans hwv.files⟩

end Alike

end World

/-- Whether a task leaves what is printed and every file. -/
structure OnlyReads (x : StateM World α) : Prop where
  alike : ∀ w : World, w.Alike (x.run w).2

namespace OnlyReads

open World

/-- What a task leaves that only reads. -/
theorem alike_of_run {x : ExceptT ε (StateM World) α} {w v : World} {r : Except ε α}
    (hx : OnlyReads x.run) (h : w.run x = (r, v)) : w.Alike v := by
  obtain rfl : (w.run x).2 = v := congrArg Prod.snd h
  exact hx.alike w

theorem pure (a : α) : OnlyReads (Pure.pure a) :=
  ⟨.refl⟩

theorem bind {x : StateM World α} {f : α → StateM World β} (hx : OnlyReads x)
    (hf : ∀ a, OnlyReads (f a)) : OnlyReads (x >>= f) where
  alike w := (hx.alike w).trans ((hf (x.run w).1).alike (x.run w).2)

/-- A task that can fail reads only if both its parts do. -/
theorem andThen {x : ExceptT ε (StateM World) α} {f : α → ExceptT ε (StateM World) β}
    (hx : OnlyReads x.run) (hf : ∀ a, OnlyReads (f a).run) : OnlyReads (x >>= f).run where
  alike w := rel_run_bind (R := Alike) Alike.trans (hx.alike w) fun a v _ => (hf a).alike v

theorem ofResult (r : Except ε α) : OnlyReads (ExceptT.mk (Pure.pure r)).run :=
  pure r

theorem lift {x : StateM World α} (hx : OnlyReads x) :
    OnlyReads (ExceptT.lift x : ExceptT ε (StateM World) α).run :=
  bind hx fun a => pure (Except.ok a)

theorem adapt {x : ExceptT ε (StateM World) α} (f : ε → ε') (hx : OnlyReads x.run) :
    OnlyReads (ExceptT.adapt f x).run :=
  bind hx fun r => pure (r.mapError f)

theorem mapM {f : α → ExceptT ε (StateM World) β} (hf : ∀ a, OnlyReads (f a).run) :
    ∀ items : List α, OnlyReads (items.mapM f).run
  | [] => ofResult (.ok [])
  | a :: items => by
    rw [List.mapM_cons]
    exact andThen (hf a) fun _ => andThen (mapM hf items) fun _ => ofResult (.ok _)

theorem forM {f : α → StateM World Unit} (hf : ∀ a, OnlyReads (f a)) :
    ∀ items : List α, OnlyReads (items.forM f)
  | [] => pure ()
  | a :: items => bind (hf a) fun _ => forM hf items

theorem filterAuxM {f : α → ExceptT ε (StateM World) Bool} (hf : ∀ a, OnlyReads (f a).run) :
    ∀ items kept : List α, OnlyReads (items.filterAuxM f kept).run
  | [], kept => ofResult (.ok kept)
  | a :: items, _ => andThen (hf a) fun _ => filterAuxM hf items _

theorem filterM {f : α → ExceptT ε (StateM World) Bool} (hf : ∀ a, OnlyReads (f a).run)
    (items : List α) : OnlyReads (items.filterM f).run :=
  andThen (filterAuxM hf items []) fun _ => ofResult (.ok _)

theorem ofExcept (problem : ε → Problem) (r : Except ε α) :
    OnlyReads (Task.ofExcept problem r : Task (StateM World) α).run :=
  pure _

theorem fail (f : Failure) : OnlyReads (Task.fail f : Task (StateM World) α).run :=
  pure _

theorem ofFiles {x : FileTask (StateM World) α} (hx : OnlyReads x.run) :
    OnlyReads (Task.ofFiles x).run :=
  adapt _ hx

end OnlyReads

/-! ## What is read and told -/

section Machine

theorem onlyReads_environment (name : String) :
    OnlyReads (Machine.environment name : StateM World _) :=
  ⟨fun _ => ⟨rfl, rfl⟩⟩

theorem onlyReads_kind? (path : Path) :
    OnlyReads (Machine.kind? path : FileTask (StateM World) _).run :=
  ⟨fun _ => ⟨rfl, rfl⟩⟩

theorem onlyReads_namesIn (path : Path) : OnlyReads (Machine.namesIn path : StateM World _) :=
  ⟨fun _ => ⟨rfl, rfl⟩⟩

theorem onlyReads_read (path : Path) :
    OnlyReads (Machine.read path : FileTask (StateM World) _).run :=
  ⟨fun _ => ⟨rfl, rfl⟩⟩

theorem onlyReads_input : OnlyReads (Machine.input : StateM World _) :=
  ⟨fun _ => ⟨rfl, rfl⟩⟩

theorem onlyReads_fetch (address : String) : OnlyReads (Machine.fetch address : StateM World _) :=
  ⟨fun _ => ⟨rfl, rfl⟩⟩

theorem onlyReads_isTerminal : OnlyReads (Machine.isTerminal : StateM World _) :=
  ⟨fun _ => ⟨rfl, rfl⟩⟩

theorem onlyReads_report (text : String) : OnlyReads (Machine.report text : StateM World _) :=
  ⟨fun _ => ⟨rfl, rfl⟩⟩

theorem onlyReads_log (message : String) : OnlyReads (Machine.log message : StateM World _) :=
  ⟨fun _ => ⟨rfl, rfl⟩⟩

theorem onlyReads_workingDirectory : OnlyReads (Machine.workingDirectory : StateM World _) :=
  ⟨fun _ => ⟨rfl, rfl⟩⟩

end Machine

namespace Console

variable (c : Console) (message : String)

theorem onlyReads_note : OnlyReads (c.note message : StateM World Unit) := by
  unfold note
  split
  · exact onlyReads_log message
  · exact .pure ()

theorem onlyReads_debug : OnlyReads (c.debug message : StateM World Unit) := by
  unfold debug
  split
  · exact onlyReads_report _
  · exact .pure ()

theorem onlyReads_success : OnlyReads (c.success message : StateM World Unit) := by
  unfold success
  split
  · exact .pure ()
  · exact onlyReads_report _

theorem onlyReads_warning : OnlyReads (c.warning message : StateM World Unit) :=
  onlyReads_report _

theorem onlyReads_error : OnlyReads (c.error message : StateM World Unit) :=
  onlyReads_report _

theorem onlyReads_colorless : OnlyReads (colorless : StateM World Bool) :=
  .bind (onlyReads_environment _) fun _ => .bind (onlyReads_environment _) fun _ => .pure _

theorem onlyReads_configure (requested : Option DataFormat) (noColor quiet verbose : Bool) :
    OnlyReads (configure requested noColor quiet verbose : StateM World Console) := by
  refine .bind ?_ fun _ => .pure _
  cases requested with
  | some format => exact .pure format
  | none => exact .bind onlyReads_colorless fun _ => .bind onlyReads_isTerminal fun _ => .pure _

end Console

/-! ## Settings -/

namespace Settings

variable (console : Console) (room : Nat)

theorem onlyReads_projectPath : OnlyReads (projectPath : StateM World Path) :=
  .bind onlyReads_workingDirectory fun _ => .pure _

theorem onlyReads_findFile (named : Option String) :
    OnlyReads (findFile named : Task (StateM World) _).run := by
  refine .andThen (.lift (onlyReads_environment _)) fun _ => ?_
  split
  · refine .andThen (.ofFiles (onlyReads_kind? _)) fun _ => ?_
    split
    · exact .pure _
    · exact .fail _
  · exact .andThen (.lift onlyReads_projectPath) fun _ =>
      .andThen (.ofFiles (onlyReads_kind? _)) fun _ => .pure _

theorem onlyReads_objectIn (path : Path) :
    OnlyReads (objectIn room path : Task (StateM World) _).run := by
  refine .andThen (.ofFiles (onlyReads_kind? _)) fun _ => ?_
  split
  · exact .pure _
  · refine .andThen (.ofFiles (onlyReads_read _)) fun _ => ?_
    split
    · exact .fail _
    · exact .andThen (.ofExcept _ _) fun _ => .pure _

theorem onlyReads_ofFile :
    ∀ path : Option Path, OnlyReads (ofFile console room path : Task (StateM World) _).run
  | none => .pure _
  | some path => .andThen (onlyReads_objectIn room path) fun _ =>
      .andThen (.lift (console.onlyReads_note _)) fun _ => .ofExcept _ _

/-- Finding settings changes nothing. -/
theorem onlyReads_resolve (named : Option String) (overrides : Overrides) :
    OnlyReads (resolve console room named overrides : Task (StateM World) _).run :=
  .andThen (onlyReads_findFile named) fun _ =>
    .andThen (onlyReads_ofFile console _ _) fun _ => .ofExcept _ _

end Settings

/-! ## Descriptions -/

namespace Description

variable (console : Console) (room : Nat)

theorem onlyReads_parseText (origin text : String) (hint : Notation) :
    OnlyReads (parseText room origin text hint : Task (StateM World) _).run :=
  .ofExcept _ _

theorem onlyReads_fromInput : OnlyReads (fromInput room : Task (StateM World) _).run := by
  refine .andThen (.lift onlyReads_input) fun _ => ?_
  split
  · exact .fail _
  · exact onlyReads_parseText ..

theorem onlyReads_fromBody (url contentType : String) (body : List UInt8) :
    OnlyReads (fromBody room url contentType body : Task (StateM World) _).run :=
  .andThen (.ofExcept _ _) fun _ => onlyReads_parseText ..

theorem onlyReads_fromAddress (url : String) :
    OnlyReads (fromAddress room url : Task (StateM World) _).run := by
  refine .andThen (.ofExcept _ _) fun _ => .andThen (.lift (onlyReads_fetch url)) fun _ => ?_
  split
  · exact .fail _
  · refine .andThen (.ofExcept _ _) fun _ => ?_
    split
    · exact .pure _
    · split
      · exact onlyReads_fromBody ..
      · exact .fail _

theorem onlyReads_fromFile (path : Path) :
    OnlyReads (fromFile room path : Task (StateM World) _).run := by
  refine .andThen (.ofFiles (onlyReads_kind? _)) fun _ => ?_
  split
  · exact .fail _
  · refine .andThen (.adapt _ (onlyReads_read _)) fun _ => .andThen (.ofExcept _ _) fun _ => ?_
    split
    · exact .fail _
    · exact onlyReads_parseText ..

theorem onlyReads_filesIn (directory : Path) :
    OnlyReads (filesIn directory : FileTask (StateM World) _).run :=
  .andThen (.lift (onlyReads_namesIn directory)) fun _ =>
    .filterM (fun _ => .andThen (onlyReads_kind? _) fun _ => .pure _) _

theorem onlyReads_originating (path : Path) :
    OnlyReads (originating room path : Task (StateM World) _).run :=
  .andThen (onlyReads_fromFile room path) fun _ => .pure _

theorem onlyReads_fromDirectory (directory : Path) :
    OnlyReads (fromDirectory console room directory : Task (StateM World) _).run := by
  refine .andThen (.ofFiles (onlyReads_filesIn directory)) fun _ => ?_
  split
  · exact .fail _
  · exact .andThen (.lift (console.onlyReads_note _)) fun _ => .mapM (onlyReads_originating _) _

/-- Loading descriptions changes nothing but what standard input still holds. -/
theorem onlyReads_load (source : String) :
    OnlyReads (load console room source : Task (StateM World) _).run := by
  unfold load
  split
  · exact .andThen (onlyReads_fromInput _) fun _ => .pure _
  · exact .andThen (onlyReads_fromAddress _ _) fun _ => .pure _
  · refine .andThen (.ofFiles (onlyReads_kind? _)) fun _ => ?_
    split
    · exact onlyReads_fromDirectory ..
    · exact .andThen (onlyReads_originating _ _) fun _ => .pure _

end Description

/-- Generating code changes nothing. -/
theorem Settings.onlyReads_compile (console : Console) (room : Nat) (settings : Settings) :
    OnlyReads (settings.compile console room : Task (StateM World) _).run :=
  .andThen (Description.onlyReads_load console _ _) fun _ =>
    .andThen (.lift (console.onlyReads_debug _)) fun _ =>
    .andThen (.ofExcept _ _) fun _ =>
    .andThen (.lift (console.onlyReads_note _)) fun _ =>
    .andThen (.lift (.forM console.onlyReads_note _)) fun _ => .ofExcept _ _

end Routewright
