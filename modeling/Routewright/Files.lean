import Routewright.Files.Fault
import Routewright.Path
import Routewright.Table

/-!
# Trees of files

A tree of directories and files as a table of places. A place is the list of names that leads to it
from the root, without any double dots. `locate` follows a path; it can only pass through
directories, so a double dot after a file or after nothing leads nowhere. Names and paths have a
greatest length.
-/

namespace Routewright

/-- The names that lead to a file or directory from the root. -/
abbrev Place := List String

/-- What is at a place. -/
inductive FileEntry
  | directory
  | file (content : List UInt8)
  deriving DecidableEq, Repr

/-- A tree of files. The root is a directory and has no entry. -/
structure Files where
  entries : List (Place × FileEntry) := []
  deriving DecidableEq, Repr

namespace Files

/-- What is at a place. -/
def find? (fs : Files) (place : Place) : Option FileEntry :=
  if place = [] then some .directory else Table.find? place fs.entries

/-- The bytes of the file at a place. -/
def content? (fs : Files) (place : Place) : Option (List UInt8) :=
  match fs.find? place with
  | some (.file content) => some content
  | _ => none

/-- Whether there is a directory at a place. -/
def isDirectory (fs : Files) (place : Place) : Bool :=
  fs.find? place = some .directory

/-- Puts something at a place, instead of what was there. -/
def put (fs : Files) (place : Place) (entry : FileEntry) : Files :=
  { entries := Table.put place entry fs.entries }

/-- Removes what is at a place. -/
def erase (fs : Files) (place : Place) : Files :=
  { entries := fs.entries.filter fun e => e.1 ≠ place }

/-- The names in the directory at a place. -/
def namesIn (fs : Files) (place : Place) : List String :=
  fs.entries.filterMap fun e => if e.1.dropLast = place then e.1.getLast? else none

/-- The place that a name leads to from a place. -/
def follow (place : Place) (name : String) : Place :=
  if name = ".." then place.dropLast else place ++ [name]

/-- The most bytes of a name. -/
def longestName : Nat := 255

/-- The most bytes of a path. -/
def longestPath : Nat := 4095

/-- Whether a name, or the text of a path, has a null character. -/
def hasNull (s : String) : Bool :=
  s.toList.contains (Char.ofNat 0)

/-- Whether a name can be looked up. -/
def isShort (name : String) : Bool :=
  name.utf8ByteSize ≤ longestName

/-- The place that names lead to from a place. Every name is followed from a directory. -/
def walk (fs : Files) (place : Place) : List String → Except FileFault Place
  | [] => .ok place
  | name :: rest =>
    match fs.find? place with
    | none => .error .missing
    | some (.file _) => .error .notDirectory
    | some .directory =>
      if isShort name then walk fs (follow place name) rest else .error .tooLong

/-- The place where a path starts, from a working directory. -/
def start (directory : Place) (path : Path) : Place :=
  match path.anchor with
  | .here => directory
  | _ => []

/-- The place of a path from a working directory. -/
def locate (fs : Files) (directory : Place) (path : Path) : Except FileFault Place :=
  if longestPath < path.text.utf8ByteSize then .error .tooLong
  else walk fs (start directory path) path.names

/-- What is at a path, if anything; nothing is where no file can be. -/
def lookUp (fs : Files) (directory : Place) (path : Path) :
    Except FileFault (Option FileEntry) :=
  if hasNull path.text then .ok none
  else match fs.locate directory path with
    | .ok place => .ok (fs.find? place)
    | .error .tooLong => .error .tooLong
    | .error _ => .ok none

/-- Why no file can have a name, if none can. -/
def nameFault? (name : String) : Option FileFault :=
  if hasNull name then some .badName
  else if isShort name then none
  else some .tooLong

/-- Makes every directory along names from a place, unless it is there. Where that fails, those made
before stay in the files that come with the fault. -/
def makeAlong (fs : Files) (place : Place) : List String → Except (FileFault × Files) Files
  | [] => .ok fs
  | name :: rest =>
    let next := follow place name
    match fs.find? next with
    | some .directory => makeAlong fs next rest
    | some (.file _) => .error (if rest.isEmpty then .present else .notDirectory, fs)
    | none =>
      match nameFault? name with
      | some fault => .error (fault, fs)
      | none => makeAlong (fs.put next .directory) next rest

/-- Makes the directory of a path and those above it, unless they are there. -/
def makeDirectories (fs : Files) (directory : Place) (path : Path) :
    Except (FileFault × Files) Files :=
  if hasNull path.text then .error (.badName, fs)
  else if longestPath < path.text.utf8ByteSize then .error (.tooLong, fs)
  else makeAlong fs (start directory path) path.names

/-- The place of a path at which a file could be: its directory is there, and no directory is at the
place itself. -/
def writable (fs : Files) (directory : Place) (path : Path) : Except FileFault Place :=
  match fs.locate directory path with
  | .error fault => .error fault
  | .ok place =>
    if fs.isDirectory place then .error .isDirectory
    else match nameFault? path.name with
      | some fault => .error fault
      | none => .ok place

/-- Writes a file. -/
def write (fs : Files) (directory : Place) (path : Path) (content : List UInt8) :
    Except FileFault Files :=
  (fs.writable directory path).map fun place => fs.put place (.file content)

end Files

end Routewright
