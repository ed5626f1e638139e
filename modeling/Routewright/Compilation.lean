import Routewright.AtomicWrite
import Routewright.Config.Resolution
import Routewright.Generation.Notes

/-!
# Compiling descriptions

From the settings to generated code: descriptions are loaded, their endpoints extracted and code
generated from them.
-/

namespace Routewright

variable {m : Type → Type} [Monad m] [Machine m]

/-- The room for documents where the program carries out a command. -/
def commandRoom : Nat := 979

/-- What settings give when their descriptions are compiled. -/
def Settings.compile (console : Console) (room : Nat) (settings : Settings) : Task m Generated := do
  let documents ← Description.load console (room - 1) settings.spec
  console.debug (m := m) ("Loaded " ++ toString documents.length
    ++ " descriptor document(s) from " ++ settings.spec)
  let endpoints ← Task.ofExcept Problem.ofDescription (Description.endpoints documents)
  console.note (m := m) ("Extracted " ++ toString endpoints.length ++ " endpoints from "
    ++ toString documents.length ++ " documents")
  ExceptT.lift ((generationNotes endpoints settings.policy).forM console.note)
  Task.ofExcept Problem.ofGeneration (generate endpoints settings.policy)

/-- The source text of generated code. -/
def Settings.source (settings : Settings) (g : Generated) : String :=
  settings.target.source g.code settings.markers

/-- Writes text to a file, which is replaced in one step. Directories above it are made. -/
def writeOutput (path : Path) (text : String) : Task m Unit := do
  Task.ofFiles (Machine.makeDirectories path.parent)
  Task.ofFiles (AtomicWrite.run path text)

/-- The output that stands for standard output. -/
def standardOutput : String := "-"

/-- Brings the source text of generated code where the settings say. -/
def deliver (console : Console) (settings : Settings) (g : Generated) : Task m Unit := do
  let text := settings.source g
  console.note (m := m) ("Rendered " ++ toString text.length ++ " characters of "
    ++ settings.target.label ++ " source")
  if settings.output = standardOutput then console.data (m := m) text
  else
    let path := Path.ofText settings.output
    writeOutput path text
    console.success (m := m)
      ("Wrote " ++ toString g.endpoints.length ++ " endpoint(s) to " ++ path.text)

/-- Generates code and brings it where the settings say. -/
def generateCode (console : Console) (config : Option String) (overrides : Overrides) :
    Task m Unit := do
  let settings ← Settings.resolve console commandRoom config overrides
  let g ← settings.compile console commandRoom
  if g.endpoints.isEmpty then
    console.warning (m := m) ("No endpoints found in " ++ settings.spec)
  deliver console settings g

end Routewright
