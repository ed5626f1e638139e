import Routewright.Proofs.CrashLog
import Routewright.Proofs.Outcome

/-!
# All or nothing

Generating code delivers the source text of what it generates, or nothing. Until there is a text it
only reads (`run_generateCode`); then the text is printed or written in one step (`deliver_eq_ok`,
`deliver_eq_error`). So a run that does not end with the exit code for success has printed nothing
and left its output, and a run that does has printed or written the text of the code that its
documents give, and nothing else (`Program.generate_all_or_nothing`). A crash log is written
wherever the data directory is, even over the output (`Program.failures_change_output`).
-/

namespace Routewright

open World

variable {α : Type} {w v u : World}

/-! ## Generating code -/

/-- The place of the file that settings name as the output, unless that is standard output. -/
def World.output? (w : World) (settings : Settings) : Option Place :=
  if settings.output = standardOutput then none
  else some (Files.placeOf w.directory (Path.ofText settings.output))

/-- Up to the point where its text is delivered, generating code only reads. -/
theorem run_generateCode (console : Console) (config : Option String) (overrides : Overrides)
    (w : World) :
    (∃ p v, w.run (generateCode console config overrides) = (.error p, v) ∧ w.Alike v) ∨
      ∃ settings g w₁ w₂ w₃,
        w.run (Settings.resolve console commandRoom config overrides) = (.ok settings, w₁) ∧
        w₁.run (settings.compile console commandRoom) = (.ok g, w₂) ∧ w.Alike w₃ ∧
        w.run (generateCode console config overrides) = w₃.run (deliver console settings g) := by
  unfold generateCode
  rw [run_bind]
  rcases hsettings : w.run (Settings.resolve console commandRoom config overrides)
    with ⟨p | settings, w₁⟩
  all_goals have hw₁ := (Settings.onlyReads_resolve console _ _ _).alike_of_run hsettings
  · exact .inl ⟨p, w₁, rfl, hw₁⟩
  dsimp only
  rw [run_bind]
  rcases hcompile : w₁.run (settings.compile console commandRoom) with ⟨p | g, w₂⟩
  all_goals have hw₂ := hw₁.trans ((settings.onlyReads_compile console _).alike_of_run hcompile)
  · exact .inl ⟨p, w₂, rfl, hw₂⟩
  dsimp only
  split
  · exact .inr ⟨settings, g, w₁, w₂, _, rfl, hcompile,
      hw₂.trans ((console.onlyReads_warning _).alike w₂), rfl⟩
  · exact .inr ⟨settings, g, w₁, w₂, w₂, rfl, hcompile, hw₂, rfl⟩

theorem run_ofFiles (w : World) (x : FileTask (StateM World) α) :
    w.run (Task.ofFiles x) = ((w.run x).1.mapError Problem.file, (w.run x).2) :=
  rfl

theorem run_ofFiles_eq_ok {x : FileTask (StateM World) α} {a : α}
    (h : w.run (Task.ofFiles x) = (.ok a, v)) : w.run x = (.ok a, v) := by
  rw [run_ofFiles] at h
  rcases hrun : w.run x with ⟨fault | a', u⟩ <;> rw [hrun] at h <;> cases h
  rfl

theorem run_ofFiles_eq_error {x : FileTask (StateM World) α} {p : Problem}
    (h : w.run (Task.ofFiles x) = (.error p, v)) : ∃ fault, w.run x = (.error fault, v) := by
  rw [run_ofFiles] at h
  rcases hrun : w.run x with ⟨fault | a, u⟩ <;> rw [hrun] at h <;> cases h
  exact ⟨fault, rfl⟩

/-- Output that is written has the text, and every other file is as it was. -/
theorem writeOutput_eq_ok {path : Path} {text : String}
    (h : w.run (writeOutput path text) = (.ok (), v)) :
    KeepsBut (· = Files.placeOf w.directory path) w v ∧
      v.files.content? (Files.placeOf w.directory path) = some (Text.encodeUtf8 text) := by
  obtain ⟨_, w₁, hmade, hwrite⟩ := run_bind_eq_ok.mp h
  obtain rfl : (w.makeDirectories path.parent).2 = w₁ :=
    congrArg Prod.snd (run_ofFiles_eq_ok hmade)
  have hmade : KeepsBut (· = Files.placeOf w.directory path) w _ :=
    keepsBut_makeDirectories w path.parent
  obtain ⟨halike, hcontent⟩ := AtomicWrite.run_eq_ok (run_ofFiles_eq_ok hwrite)
  rw [directory_eq_of_fixed hmade.fixed] at halike hcontent
  exact ⟨hmade.trans halike.keepsBut, hcontent⟩

/-- Output that cannot be written may leave a temporary file. -/
theorem writeOutput_eq_error {path : Path} {text : String} {p : Problem}
    (h : w.run (writeOutput path text) = (.error p, v)) :
    KeepsBut (fun place => ∃ k, place = beside w.directory path k) w v := by
  have hmade : KeepsBut (fun place => ∃ k, place = beside w.directory path k) w _ :=
    keepsBut_makeDirectories w path.parent
  rcases run_bind_eq_error.mp h with h | ⟨_, w₁, hmake, hwrite⟩
  · obtain ⟨fault, h⟩ := run_ofFiles_eq_error h
    obtain rfl : (w.makeDirectories path.parent).2 = v := congrArg Prod.snd h
    exact hmade
  · obtain rfl : (w.makeDirectories path.parent).2 = w₁ :=
      congrArg Prod.snd (run_ofFiles_eq_ok hmake)
    obtain ⟨fault, hwrite⟩ := run_ofFiles_eq_error hwrite
    obtain ⟨k, halike⟩ := AtomicWrite.run_eq_error hwrite
    rw [directory_eq_of_fixed hmade.fixed] at halike
    exact hmade.trans (halike.keepsBut.mono fun place hplace => ⟨k, hplace⟩)

/-- A source text ends with a line feed, so it is printed as it is. -/
theorem Settings.dataText_source (settings : Settings) (g : Generated) :
    Console.dataText (settings.source g) = settings.source g := by
  refine if_pos ?_
  unfold source Target.source
  split <;> exact (congrArg List.getLast? String.toList_append).trans List.getLast?_concat

/-- Whether a text was brought where settings say, and nothing else was printed or written. -/
def Delivered (settings : Settings) (text : String) (w v : World) : Prop :=
  match w.output? settings with
  | none => v.printed = w.printed ++ text ∧ v.files = w.files
  | some place => v.printed = w.printed ∧ v.files.content? place = some (Text.encodeUtf8 text) ∧
      ∀ p, p ≠ place → w.files.KeepsAt v.files p

theorem Delivered.of_alike {settings : Settings} {text : String} (h : w.Alike v)
    (hv : Delivered settings text v u) : Delivered settings text w u := by
  have houtput : v.output? settings = w.output? settings := by
    rw [output?, output?, directory_eq_of_fixed h.fixed]
  unfold Delivered at hv ⊢
  rwa [houtput, printed_eq_of_fixed h.fixed, h.files] at hv

/-- Text that is delivered is printed as it is, or written. -/
theorem deliver_eq_ok {console : Console} {settings : Settings} {g : Generated}
    (h : w.run (deliver console settings g) = (.ok (), v)) :
    Delivered settings (settings.source g) w v := by
  obtain ⟨_, w₁, hnote, h⟩ := run_bind_eq_ok.mp h
  have hw₁ := (console.onlyReads_note _).lift.alike_of_run hnote
  unfold Delivered output?
  split at h
  case isTrue hstandard =>
    rw [if_pos hstandard]
    have hv : v = { w₁ with printed := w₁.printed ++ Console.dataText (settings.source g) } :=
      (congrArg Prod.snd h).symm
    rw [hv, settings.dataText_source, printed_eq_of_fixed hw₁.fixed]
    exact ⟨rfl, hw₁.files⟩
  case isFalse hfile =>
    rw [if_neg hfile]
    obtain ⟨_, w₂, hwrite, hsuccess⟩ := run_bind_eq_ok.mp h
    have hv := (console.onlyReads_success _).lift.alike_of_run hsuccess
    obtain ⟨hw₂, hcontent⟩ := writeOutput_eq_ok hwrite
    rw [directory_eq_of_fixed hw₁.fixed] at hw₂ hcontent
    have hkeeps := (hw₁.keepsBut.trans hw₂).trans hv.keepsBut
    rw [← hv.files] at hcontent
    exact ⟨printed_eq_of_fixed hkeeps.fixed, hcontent, hkeeps.keepsAt⟩

/-- Text that cannot be delivered is not printed, and only a temporary file may be left of it. -/
theorem deliver_eq_error {console : Console} {settings : Settings} {g : Generated} {p : Problem}
    (h : w.run (deliver console settings g) = (.error p, v)) :
    settings.output ≠ standardOutput ∧ KeepsBut (fun place =>
      ∃ k, place = beside w.directory (Path.ofText settings.output) k) w v := by
  rcases run_bind_eq_error.mp h with h | ⟨_, w₁, hnote, h⟩
  · cases h
  have hw₁ := (console.onlyReads_note _).lift.alike_of_run hnote
  split at h
  · cases h
  case isFalse hfile =>
    refine ⟨hfile, ?_⟩
    rcases run_bind_eq_error.mp h with h | ⟨_, w₂, hwrite, hsuccess⟩
    · have hv := writeOutput_eq_error h
      rw [directory_eq_of_fixed hw₁.fixed] at hv
      exact hw₁.keepsBut.trans hv
    · cases hsuccess

/-- The documents that generated code comes from. -/
theorem Settings.compile_eq_ok {console : Console} {room : Nat} {settings : Settings}
    {g : Generated} (h : w.run (settings.compile console room) = (.ok g, v)) :
    ∃ documents endpoints,
      (w.run (Description.load console (room - 1) settings.spec)).1 = .ok documents ∧
      Description.endpoints documents = .ok endpoints ∧
      generate endpoints settings.policy = .ok g := by
  obtain ⟨documents, w₁, hload, h⟩ := run_bind_eq_ok.mp h
  obtain ⟨_, w₂, -, h⟩ := run_bind_eq_ok.mp h
  obtain ⟨endpoints, w₃, hendpoints, h⟩ := run_bind_eq_ok.mp h
  obtain ⟨_, w₄, -, h⟩ := run_bind_eq_ok.mp h
  obtain ⟨_, w₅, -, h⟩ := run_bind_eq_ok.mp h
  exact ⟨documents, endpoints, congrArg Prod.fst hload,
    Outcome.mapError_eq_ok.mp (congrArg Prod.fst hendpoints),
    Outcome.mapError_eq_ok.mp (congrArg Prod.fst h)⟩

/-! ## Whole runs -/

namespace Program

variable (options : ProgramOptions) (overrides : Overrides)

/-- The console of a call. -/
def console : Task (StateM World) Console :=
  ExceptT.lift (Console.configure options.format options.noColor options.quiet options.verbose)

/-- The settings that are in effect for a call to generate code. -/
def effective : Task (StateM World) Settings := do
  Settings.resolve (← console options) commandRoom options.config overrides

/-- The settings that are in effect for a call to generate code, and the documents they name. -/
def loaded : Task (StateM World) (Settings × List (String × Document)) := do
  let console ← console options
  let settings ← Settings.resolve console commandRoom options.config overrides
  return (settings, ← Description.load console (commandRoom - 1) settings.spec)

/-- Whether a place is beside the file that is to be the output, for writing that. -/
def IsTemporary (w : World) (place : Place) : Prop :=
  ∃ settings k, (w.run (effective options overrides)).1 = .ok settings ∧
    settings.output ≠ standardOutput ∧
    place = beside w.directory (Path.ofText settings.output) k

/-- What a call to generate code leaves when it does not succeed: nothing is printed, and the output
is as it was unless the crash log is in its place. Nothing else is lost either. -/
structure Untouched (w v : World) : Prop where
  printed : v.printed = w.printed
  output : ∀ settings place, (w.run (effective options overrides)).1 = .ok settings →
    w.output? settings = some place → w.files.KeepsAt v.files place ∨ v.HoldsCrashLog place
  files : ∀ place, w.files.KeepsAt v.files place ∨ v.HoldsCrashLog place ∨
    IsTemporary options overrides w place

/-- What a call to generate code that succeeds has done: the code of the endpoints in the documents
that it loaded is where its settings say. -/
def Generates (w v : World) : Prop :=
  ∃ settings documents endpoints g,
    (w.run (loaded options overrides)).1 = .ok (settings, documents) ∧
    Description.endpoints documents = .ok endpoints ∧
    generate endpoints settings.policy = .ok g ∧
    Delivered settings (settings.source g) w v

variable {options : ProgramOptions} {overrides : Overrides}

theorem onlyReads_console : OnlyReads (console options).run :=
  (Console.onlyReads_configure ..).lift

/-- A call to generate code ends as its command is concluded. -/
theorem run_answer (w : World) : ∃ console w₀ result w₁,
    w.run (Program.console options) = (.ok console, w₀) ∧
    w₀.run (generateCode console options.config overrides) = (result, w₁) ∧
    w.run (answer (.run options (.generate overrides))) =
      w₁.run (conclude (m := StateM World) console result) :=
  ⟨_, _, _, _, rfl, rfl, rfl⟩

/-- The output is none of the places of temporary files. -/
theorem not_isTemporary_output {settings : Settings} {place : Place}
    (hsettings : (w.run (effective options overrides)).1 = .ok settings)
    (hplace : w.output? settings = some place) : ¬IsTemporary options overrides w place := by
  rintro ⟨settings', k, hsettings', -, rfl⟩
  obtain rfl := Except.ok.inj (hsettings.symm.trans hsettings')
  unfold output? at hplace
  split_ifs at hplace
  exact placeOf_ne_beside _ _ k (Option.some.inj hplace)

theorem untouched_of_sparesBut (h : SparesBut (IsTemporary options overrides w) w v) :
    Untouched options overrides w v where
  printed := printed_eq_of_fixed h.fixed
  output _ place hsettings hplace := h.spares place (not_isTemporary_output hsettings hplace)
  files place := by
    by_cases htemporary : IsTemporary options overrides w place
    · exact .inr (.inr htemporary)
    · exact or_assoc.mp (.inl (h.spares place htemporary))

/-- Settings are resolved where the console is there, and that only reads. -/
theorem run_effective {console : Console} {w₀ : World}
    (hconsole : w.run (Program.console options) = (.ok console, w₀)) :
    w.run (effective options overrides) =
      w₀.run (Settings.resolve console commandRoom options.config overrides) := by
  rw [effective, run_bind, hconsole]

/-- A command that fails may leave a temporary file. -/
theorem keepsBut_of_error {console : Console} {w₀ w₁ : World} {p : Problem}
    (hconsole : w.run (Program.console options) = (.ok console, w₀))
    (hcommand : w₀.run (generateCode console options.config overrides) = (.error p, w₁)) :
    KeepsBut (IsTemporary options overrides w) w w₁ := by
  have hw₀ := onlyReads_console.alike_of_run hconsole
  rcases run_generateCode console options.config overrides w₀ with
    ⟨p', v', hrun, halike⟩ | ⟨settings, g, w₂, w₃, w₄, hsettings, -, halike, hrun⟩
  · obtain rfl : v' = w₁ := congrArg Prod.snd (hrun.symm.trans hcommand)
    exact (hw₀.trans halike).keepsBut
  · obtain ⟨hfile, hkeeps⟩ := deliver_eq_error (hrun.symm.trans hcommand)
    have hw₄ := hw₀.trans halike
    refine hw₄.keepsBut.trans (hkeeps.mono fun place ⟨k, hplace⟩ => ⟨settings, k, ?_, hfile, ?_⟩)
    · rw [run_effective hconsole, hsettings]
    · rw [hplace, directory_eq_of_fixed hw₄.fixed]

/-- A command that succeeds has delivered the code of the documents that were loaded. -/
theorem generates_of_ok {console : Console} {w₀ w₁ : World}
    (hconsole : w.run (Program.console options) = (.ok console, w₀))
    (hcommand : w₀.run (generateCode console options.config overrides) = (.ok (), w₁)) :
    Generates options overrides w w₁ := by
  have hw₀ := onlyReads_console.alike_of_run hconsole
  rcases run_generateCode console options.config overrides w₀ with
    ⟨p, v, hrun, -⟩ | ⟨settings, g, w₂, w₃, w₄, hsettings, hcompile, halike, hrun⟩
  · exact nomatch hrun.symm.trans hcommand
  · obtain ⟨documents, endpoints, hload, hendpoints, hgenerate⟩ := Settings.compile_eq_ok hcompile
    refine ⟨settings, documents, endpoints, g, ?_, hendpoints, hgenerate,
      .of_alike (hw₀.trans halike) (deliver_eq_ok (hrun.symm.trans hcommand))⟩
    rw [loaded, run_bind, hconsole]
    dsimp only
    rw [run_bind, hsettings]
    dsimp only
    rw [run_bind]
    rcases hrest : w₂.run (Description.load console (commandRoom - 1) settings.spec) with ⟨r, u⟩
    rw [hrest] at hload
    cases hload
    rfl

/-- Unless a shell asks for something, a run of the program is the call. -/
theorem run_eq_call {arguments : List String}
    (hshell : (Table.find? Completion.variableName w.environment).getD "" = "") :
    w.run (Program.run arguments) = w.run (call arguments) := by
  unfold Program.run
  rw [run_bind]
  have hvariable : w.run (liftM (Machine.environment (m := StateM World) Completion.variableName) :
      FileTask (StateM World) _) = (.ok (Table.find? Completion.variableName w.environment), w) :=
    rfl
  rw [hvariable]
  cases hrequest : Table.find? Completion.variableName w.environment with
  | none => rfl
  | some request =>
    rw [hrequest, Option.getD_some] at hshell
    subst hshell
    rfl

/-- What a call to generate code leaves when it fails, whatever the failure. -/
theorem untouched_of_error {console : Console} {w₀ w₁ : World} {p : Problem}
    (hconsole : w.run (Program.console options) = (.ok console, w₀))
    (hcommand : w₀.run (generateCode console options.config overrides) = (.error p, w₁)) :
    Untouched options overrides w (w₁.run (conclude (m := StateM World) console (.error p))).2 :=
  untouched_of_sparesBut
    ((keepsBut_of_error hconsole hcommand).sparesBut.trans (sparesBut_conclude console w₁ _))

/-- A run of the program that is to generate code does everything or nothing. Unless it ends with
the exit code for success, it prints nothing and leaves the file that settings name as the output,
except where its own crash log is that file. When it ends with that code, the source text of the
code that its documents give is all that it printed, or all that it wrote. The call may also be
refused.

Printing is assumed not to fail, be it to standard output or to standard error (`Machine.print`,
`Machine.report`). Documents with an escape of half a surrogate pair on its own are left out : it is
read as the replacement character, which can be written to a file, as the half cannot. -/
theorem generate_all_or_nothing {arguments : List String} (w : World)
    (hshell : (Table.find? Completion.variableName w.environment).getD "" = "")
    (hcall : ∀ invocation, Invocation.ofArguments arguments = .ok invocation →
      invocation = .run options (.generate overrides)) :
    ((w.run (Program.run arguments)).1 ≠ .ok ExitCode.success →
      Untouched options overrides w (w.run (Program.run arguments)).2) ∧
    ((w.run (Program.run arguments)).1 = .ok ExitCode.success →
      Generates options overrides w (w.run (Program.run arguments)).2) := by
  rw [run_eq_call hshell, call]
  cases harguments : Invocation.ofArguments arguments with
  | error refusal =>
    refine ⟨fun _ => untouched_of_sparesBut (Alike.keepsBut ?_).sparesBut, nofun⟩
    exact (onlyReads_report _).alike w
  | ok invocation =>
    obtain rfl := hcall invocation harguments
    obtain ⟨console, w₀, result, w₁, hconsole, hcommand, hanswer⟩ := run_answer w
    dsimp only
    rw [hanswer]
    cases result with
    | ok u => exact ⟨fun h => absurd rfl h, fun _ => generates_of_ok hconsole hcommand⟩
    | error p =>
      refine ⟨fun _ => untouched_of_error hconsole hcommand, fun h => ?_⟩
      cases of_conclude_eq_success (Prod.ext h rfl)

/-- One call writes the code for a description without endpoints to a new file, and another finds no
description. -/
theorem generate_all_or_nothing_new :
    let w : World := { files := Files.put {} ["s.json"] (.file (Text.encodeUtf8 "\x7b\x7d")) }
    let written := w.run (Program.run ["generate", "-s", "s.json", "-o", "new"])
    let failed := w.run (Program.run ["generate", "-s", "none.json", "-o", "s.json"])
    Generates {} { spec := some "s.json", output := some "new" } w written.2 ∧
      Untouched {} { spec := some "none.json", output := some "s.json" } w failed.2 := by
  have hwritten : Invocation.ofArguments ["generate", "-s", "s.json", "-o", "new"] =
      .ok (.run {} (.generate { spec := some "s.json", output := some "new" })) := by
    decide +kernel
  have hfailed : Invocation.ofArguments ["generate", "-s", "none.json", "-o", "s.json"] =
      .ok (.run {} (.generate { spec := some "none.json", output := some "s.json" })) := by
    decide +kernel
  exact ⟨(generate_all_or_nothing _ rfl fun invocation h =>
      Except.ok.inj (h.symm.trans hwritten)).2 (by decide +kernel),
    (generate_all_or_nothing _ rfl fun invocation h =>
      Except.ok.inj (h.symm.trans hfailed)).1 (by decide +kernel)⟩

/-- A run that fails may change its output. What is no UTF-8 text ends in a crash log, which goes
over the file that was to be the output, and a directory that is made for an output may be where
that was to be itself. -/
theorem failures_change_output :
    (let log : Place := ["data", "restgen", "logs", "crash-0.log"]
      let w : World :=
        { files := (Files.put {} ["s.json"] (.file [0xFF])).put log (.file [])
          environment := [("XDG_DATA_HOME", "/data")], timestamp := "0" }
      let run := w.run (Program.run
        ["generate", "-s", "s.json", "-o", "/data/restgen/logs/crash-0.log"])
      run.1.toOption = some ExitCode.failure ∧
        w.files.content? log = some [] ∧ run.2.files.content? log ≠ some []) ∧
    (let w : World :=
        { files := Files.put {} ["s.json"] (.file (Text.encodeUtf8 "\x7b\x7d"))
          environment := [("XDG_DATA_HOME", "/data")], timestamp := "0" }
      let run := w.run (Program.run ["generate", "-s", "s.json", "-o", "new/../new"])
      run.1.toOption = some ExitCode.failure ∧
        w.files.find? ["new"] = none ∧ run.2.files.find? ["new"] = some .directory) := by
  decide +kernel

end Program

end Routewright
