import Routewright.Files
import Routewright.Machine
import Routewright.Text.Utf8

/-!
# Described machines

A machine given by its description: a tree of files, variables, what standard input holds and what
other machines answer. What the program does to it is a new description, which also holds what was
printed, reported and logged. `faults` says which steps of writing a temporary file fail.
-/

namespace Routewright

/-- A step of writing a temporary file. -/
inductive WriteStep
  | create
  | append
  | flush
  | sync
  | close
  | abandon
  | replace
  deriving DecidableEq, Repr

/-- The description of a machine. `unwritten` is what has been handed over to the temporary file
that is being written and is not yet in it. -/
structure World where
  files : Files := {}
  directory : Place := []
  environment : List (String × String) := []
  platform : String := "Linux"
  accountHome : String := "/root"
  timestamp : String := ""
  input : String := ""
  reply : String → Reply := fun _ => .failed "offline"
  terminal : Bool := false
  faults : WriteStep → Bool := fun _ => false
  unwritten : List UInt8 := []
  printed : String := ""
  reported : String := ""
  logged : List String := []

namespace World

/-- The path of a place. -/
def pathOf (place : Place) : Path :=
  { anchor := .root, names := place }

/-- What is at a path, if anything. -/
def kind? (w : World) (path : Path) : Except FileFault (Option FileKind) :=
  (w.files.lookUp w.directory path).map fun found => found.map fun
    | .directory => .directory
    | .file _ => .file

/-- The names in a directory. -/
def namesIn (w : World) (path : Path) : List String :=
  match w.files.locate w.directory path with
  | .ok place => w.files.namesIn place
  | .error _ => []

/-- The bytes of a file. -/
def read (w : World) (path : Path) : Except FileFault (List UInt8) := do
  match w.files.find? (← w.files.locate w.directory path) with
  | some (.file content) => return content
  | some .directory => throw .isDirectory
  | none => throw .missing

/-- A number in eight digits. -/
def eightDigits (k : Nat) : String :=
  let ds := Nat.toDigits 10 k
  String.ofList (List.replicate (8 - ds.length) '0' ++ ds)

/-- A name for a temporary file beside a named file. -/
def temporaryName (name : String) (k : Nat) : String :=
  "." ++ name ++ "." ++ eightDigits k ++ ".tmp"

/-- How many names are tried for a temporary file. -/
def nameTrials : Nat := 100

/-- The place of a new temporary file beside the file of a path. -/
def temporaryPlace (w : World) (path : Path) : Except FileFault Place :=
  match w.files.locate w.directory path.parent with
  | .error fault => .error fault
  | .ok place =>
    if !w.files.isDirectory place then .error .notDirectory
    else
      let candidate (k : Nat) := temporaryName path.name k
      let isFree (k : Nat) := (w.files.find? (place ++ [candidate k])).isNone
      match (List.range nameTrials).find? isFree with
      | none => .error .present
      | some k =>
        match Files.nameFault? (candidate k) with
        | some fault => .error fault
        | none => .ok (place ++ [candidate k])

/-- The fault of a step that fails. -/
def fault : FileFault := .failed "input/output error"

/-- A world after an operation on its files. -/
def withFiles (w : World) (r : Except FileFault Files) : Except FileFault Unit × World :=
  match r with
  | .ok files => (.ok (), { w with files })
  | .error fault => (.error fault, w)

/-- Makes a directory and those above it, unless they are there. -/
def makeDirectories (w : World) (path : Path) : Except FileFault Unit × World :=
  match w.files.makeDirectories w.directory path with
  | .ok files => (.ok (), { w with files })
  | .error (fault, files) => (.error fault, { w with files })

/-- Creates an empty temporary file. -/
def createTemporary (w : World) (path : Path) : Except FileFault Place × World :=
  if w.faults .create then (.error fault, w)
  else match w.temporaryPlace path with
    | .error fault => (.error fault, w)
    | .ok place => (.ok place, { w with files := w.files.put place (.file []), unwritten := [] })

/-- Hands text over to be written. -/
def append (w : World) (text : String) : Except FileFault Unit × World :=
  if w.faults .append then (.error fault, w)
  else (.ok (), { w with unwritten := w.unwritten ++ Text.encodeUtf8 text })

/-- Writes what has been handed over to the file at a place. -/
def flush (w : World) (place : Place) : Except FileFault Unit × World :=
  if w.faults .flush then (.error fault, w)
  else
    let content := (w.files.content? place).getD [] ++ w.unwritten
    (.ok (), { w with files := w.files.put place (.file content), unwritten := [] })

/-- Closes the file at a place in a step. It is closed even if that fails, and what could not be
written is lost. -/
def close (w : World) (step : WriteStep) (place : Place) : Except FileFault Unit × World :=
  let (flushed, w) := if w.unwritten.isEmpty then (.ok (), w) else w.flush place
  let w := { w with unwritten := [] }
  match flushed with
  | .error fault => (.error fault, w)
  | .ok _ => if w.faults step then (.error fault, w) else (.ok (), w)

/-- Moves the file at a place to a path. -/
def replace (w : World) (place : Place) (path : Path) : Except FileFault Unit × World :=
  if w.faults .replace then (.error fault, w)
  else match w.files.content? place with
    | none => (.error .missing, w)
    | some content =>
      w.withFiles (((w.files.erase place).writable w.directory path).map fun target =>
        (w.files.erase place).put target (.file content))

instance : Machine (StateM World) where
  Temporary := Place
  environment name := return Table.find? name (← get).environment
  platform := return (← get).platform
  accountHome := return (← get).accountHome
  timestamp := return (← get).timestamp
  workingDirectory := return pathOf (← get).directory
  kind? path := ExceptT.mk (return (← get).kind? path)
  namesIn path := return (← get).namesIn path
  read path := ExceptT.mk (return (← get).read path)
  makeDirectories path := ExceptT.mk (modifyGet fun w => w.makeDirectories path)
  write path text := ExceptT.mk (modifyGet fun w =>
    w.withFiles (w.files.write w.directory path (Text.encodeUtf8 text)))
  createTemporary path := ExceptT.mk (modifyGet fun w => w.createTemporary path)
  append _ text := ExceptT.mk (modifyGet fun w => w.append text)
  flush place := ExceptT.mk (modifyGet fun w => w.flush place)
  sync _ := ExceptT.mk (modifyGet fun w =>
    (if w.faults .sync then .error fault else .ok (), w))
  close place := ExceptT.mk (modifyGet fun w => w.close .close place)
  abandon place := ExceptT.mk (modifyGet fun w => w.close .abandon place)
  replace place path := ExceptT.mk (modifyGet fun w => w.replace place path)
  discard place := modify fun w => { w with files := w.files.erase place }
  input := modifyGet fun w => (w.input, { w with input := "" })
  fetch address := return (← get).reply address
  isTerminal := return (← get).terminal
  print text := modify fun w => { w with printed := w.printed ++ text }
  report text := modify fun w => { w with reported := w.reported ++ text }
  log message := modify fun w => { w with logged := w.logged ++ [message] }

end World

end Routewright
