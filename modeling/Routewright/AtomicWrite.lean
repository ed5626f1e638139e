import Routewright.Machine

/-!
# Atomic writes

A file is replaced in one step: its new content is first written to a temporary file beside it,
which then takes its place. Whatever fails before leaves the file as it was.
-/

namespace Routewright.AtomicWrite

variable {m : Type → Type} [Monad m] [Machine m]

/-- Writes a temporary file and waits until its content cannot be lost. -/
def fill (file : Machine.Temporary m) (text : String) : FileTask m Unit := do
  Machine.append file text
  Machine.flush file
  Machine.sync file

/-- Removes a temporary file that is closed, and fails for the given reason. -/
def giveUp (file : Machine.Temporary m) (fault : FileFault) : FileTask m Unit := do
  ExceptT.lift (Machine.discard file)
  throw fault

/-- Closes and removes a temporary file, and fails for the given reason. If it cannot be closed,
that is the reason instead. -/
def closeAndGiveUp (file : Machine.Temporary m) (fault : FileFault) : FileTask m Unit := do
  Machine.abandon file
  giveUp file fault

/-- Replaces the content of the file at a path. -/
def run (path : Path) (text : String) : FileTask m Unit := do
  let file : Machine.Temporary m ← Machine.createTemporary path
  tryCatch
    (do
      fill file text
      Machine.close file)
    (closeAndGiveUp file)
  tryCatch (Machine.replace file path) (giveUp file)

end Routewright.AtomicWrite
