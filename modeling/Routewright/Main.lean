import Routewright.Program
import Routewright.Timestamp
import Routewright.World

/-!
# Running on a real machine

The operations of the machine that the process runs on, and the entry of the program. There is no
access to a network, so no document comes from an address.
-/

namespace Routewright

/-- A temporary file that is open for writing. -/
structure OpenFile where
  handle : IO.FS.Handle
  path : Path

namespace RealMachine

/-- A fault for what the system reports. -/
def faultOf : IO.Error → FileFault
  | .alreadyExists .. => .present
  | .noFileOrDirectory .. => .missing
  | e => .failed (toString e)

/-- An action as an operation on files. -/
def attempt {α : Type} (action : IO α) : FileTask IO α :=
  ExceptT.mk do
    try
      return .ok (← action)
    catch e =>
      return .error (faultOf e)

/-- What is at a path, if anything. -/
def kind? (path : Path) : FileTask IO (Option FileKind) :=
  ExceptT.mk do
    try
      let data ← ((← IO.currentDir) / path.text).metadata
      return .ok (match data.type with
        | .dir => some .directory
        | .file => some .file
        | _ => none)
    catch
      | .noFileOrDirectory .. | .inappropriateType .. => return .ok none
      | e => return .error (faultOf e)

/-- The names in a directory. -/
def namesIn (path : Path) : IO (List String) := do
  let entries ← ((← IO.currentDir) / path.text).readDir
  return entries.toList.map (·.fileName)

/-- Creates a file beside the file of a path, under the first of some names that is free. -/
def createBeside (path : Path) : Nat → IO OpenFile
  | 0 => throw (IO.userError "no name is free")
  | trials + 1 => do
    let beside := path.parent.child (World.temporaryName path.name trials)
    try
      return { handle := ← IO.FS.Handle.mk beside.text .writeNew, path := beside }
    catch
      | .alreadyExists .. => createBeside path trials
      | e => throw e

/-- Removes a file, if that can be done. -/
def discard (file : OpenFile) : IO Unit := do
  try
    IO.FS.removeFile file.path.text
  catch _ =>
    return ()

/-- The name of the operating system, where the system tells it. -/
def platform : IO String := do
  try
    return (← IO.FS.readFile "/proc/sys/kernel/ostype").trimAscii.toString
  catch _ =>
    return ""

/-- The present time, as that of a file made for it. -/
def timestamp : IO String := do
  let (_, path) ← IO.FS.createTempFile
  let data ← path.metadata
  IO.FS.removeFile path
  return Timestamp.ofSeconds data.modified.sec.toNat

instance : Machine IO where
  Temporary := OpenFile
  environment name := IO.getEnv name
  platform := platform
  accountHome := return "/"
  timestamp := timestamp
  workingDirectory := return Path.ofText (← IO.currentDir).toString
  kind? := kind?
  namesIn := namesIn
  read path := attempt do return (← IO.FS.readBinFile path.text).toList
  makeDirectories path := attempt (IO.FS.createDirAll path.text)
  write path text := attempt (IO.FS.writeFile path.text text)
  createTemporary path := attempt (createBeside path 100)
  append file text := attempt (file.handle.putStr text)
  flush file := attempt file.handle.flush
  sync file := attempt file.handle.flush
  close file := attempt file.handle.flush
  abandon file := attempt file.handle.flush
  replace file path := attempt (IO.FS.rename file.path.text path.text)
  discard := discard
  input := do (← IO.getStdin).readToEnd
  fetch _ := return .failed "there is no access to a network"
  isTerminal := do (← IO.getStdout).isTty
  print text := do
    let out ← IO.getStdout
    out.putStr text
    out.flush
  report text := IO.eprint text
  log message := IO.eprint ("DEBUG    " ++ message ++ "\n")

end RealMachine

end Routewright

/-- Runs the program on the machine of the process. -/
def main (arguments : List String) : IO UInt32 := do
  match ← (Routewright.Program.run arguments).run with
  | .ok code => return code.toUInt32
  | .error fault =>
    IO.eprintln fault.message
    return Routewright.ExitCode.failure.toUInt32
