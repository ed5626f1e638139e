import Routewright.Config.Settings
import Routewright.Console
import Routewright.Description.Loading
import Routewright.Task

/-!
# Finding settings

Settings are in a file that the caller names, or that a variable of the environment names, or in the
project file of the working directory. A file that is named must be there. What the caller asks for
goes before the file, and the file before the defaults.
-/

namespace Routewright.Settings

variable {m : Type → Type} [Monad m] [Machine m]

/-- The name of the project file. -/
def projectFile : String := "restgen.json"

/-- The environment variable that names a file. -/
def fileVariable : String := "RESTGEN_CONFIG"

/-- A fault in the settings as the end of a task. -/
def stop {α : Type} (fault : ConfigFault) : Task m α :=
  Task.fail (.config fault)

/-- The first of two texts that is there and not empty. -/
def firstGiven (a b : Option String) : Option String :=
  match a with
  | some s => if s.isEmpty then b.filter fun t => !t.isEmpty else some s
  | none => b.filter fun t => !t.isEmpty

/-- The project file of the working directory. -/
def projectPath : m Path := do
  return (← Machine.workingDirectory).child projectFile

/-- The file that holds the settings, if there is one. -/
def findFile (named : Option String) : Task m (Option Path) := do
  match firstGiven named (← Machine.environment (m := m) fileVariable) with
  | some s =>
    let path := Path.ofText s
    if (← Task.ofFiles (Machine.kind? path)) = some .file then return some path
    else stop (.notFound path.text)
  | none =>
    let path ← projectPath (m := m)
    return if (← Task.ofFiles (Machine.kind? path)) = some .file then some path else none

/-- The object that a text holds; `path` is where the text comes from. -/
def parse (room : Nat) (path text : String) : Except Problem Value :=
  match Json.parse room text with
  | .error fault =>
    if fault.kind = .tooDeep then .error (.irregular .tooDeep)
    else .error (.failure (.config (.json path text fault)))
  | .ok v =>
    match v with
    | .map _ => .ok v
    | _ => .error (.failure (.config (.notObject path)))

/-- The object in a file, if the file is there. -/
def objectIn (room : Nat) (path : Path) : Task m (Option Value) := do
  if (← Task.ofFiles (Machine.kind? path)) ≠ some .file then return none
  else
    let bytes ← Task.ofFiles (Machine.read path)
    match Description.textOfBytes bytes with
    | .error fault => stop (.notUtf8 path.text fault)
    | .ok text =>
      return some (← Task.ofExcept id (parse (room - 1) path.text (String.ofList text)))

/-- The settings of a file, if there is one, and else the defaults. -/
def ofFile (console : Console) (room : Nat) : Option Path → Task m Settings
  | none => return {}
  | some path => do
    let v ← objectIn room path
    console.note (m := m) ("Using config file " ++ path.text)
    Task.ofExcept (fun e => .failure (.config (.invalid path.text e)))
      (Settings.ofValue (v.getD (.map [])))

/-- The settings for a call that names a file or none and asks for something in place of what is
set. -/
def resolve (console : Console) (room : Nat) (named : Option String) (overrides : Overrides) :
    Task m Settings := do
  let settings ← ofFile console (room - 1) (← findFile named)
  Task.ofExcept (fun f => .failure (.config f)) (settings.override overrides)

end Routewright.Settings
