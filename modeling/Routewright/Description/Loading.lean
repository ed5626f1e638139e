import Routewright.Console
import Routewright.Description.ContentType
import Routewright.Description.Extraction
import Routewright.Sorted
import Routewright.Task

/-!
# Loading descriptions

The documents of a description come from standard input, from an address, from a file, or from all
description files of a directory in the order of their names. Either all of them are loaded or none.
-/

namespace Routewright

namespace Notation

/-- The notation that a suffix in lower case stands for. -/
def ofSuffix? (suffix : String) : Option Notation :=
  Table.find? suffix [(".json", .json), (".yaml", .yaml), (".yml", .yaml)]

/-- The notation that a content type mentions. -/
def ofContentType (contentType : String) : Notation :=
  let mentions (word : String) := Text.contains word.toList contentType.toList
  if mentions "json" then .json
  else if mentions "yaml" || mentions "yml" then .yaml
  else .unknown

end Notation

/-- The notation that the suffix of a path stands for, in any case. -/
def Path.notation? (path : Path) : Option Notation :=
  Notation.ofSuffix? (String.ofList (Text.lower path.suffix.toList))

namespace Description

/-- Where a description comes from. -/
inductive Source
  | input
  | address (url : String)
  | files (path : Path)
  deriving DecidableEq, Repr

/-- The source that a text names. -/
def Source.ofText (s : String) : Source :=
  if s = "-" then .input
  else if s.startsWith "http://" || s.startsWith "https://" then .address s
  else .files (Path.ofText s)

/-- What documents that come from standard input are said to come from. -/
def inputOrigin : String := "stdin"

variable {m : Type → Type} [Monad m] [Machine m]

/-- A fault of a description as the end of a task. -/
def stop {α : Type} (fault : DescriptionFault) : Task m α :=
  Task.fail (.description fault)

/-- The document of a text. -/
def parseText (room : Nat) (origin text : String) (hint : Notation) : Task m Document :=
  Task.ofExcept Problem.ofDescription (Document.parse room origin text hint)

/-- The document that standard input holds. -/
def fromInput (room : Nat) : Task m Document := do
  let text ← Machine.input (m := m)
  if Text.isBlankText text.toList then stop .noInput
  else parseText room inputOrigin text .unknown

/-- The document in the body of an answer. -/
def fromBody (room : Nat) (url contentType : String) (body : List UInt8) : Task m Document := do
  let text ← Task.ofExcept (fun fault => .irregular (.contentType fault))
    (ContentType.read contentType body)
  parseText room url (String.ofList text) (.ofContentType contentType)

/-- The document at an address. That an address names no host is seen when an answer comes. -/
def fromAddress (room : Nat) (url : String) : Task m Document := do
  Task.ofExcept (fun fault => .irregular (.address fault)) (Address.check url)
  match ← Machine.fetch (m := m) url with
  | .failed reason => stop (.unreachable url reason)
  | .answer status contentType body =>
    Task.ofExcept (fun fault => .irregular (.contentType fault)) (ContentType.check contentType)
    if !Address.namesHost url then throw (.irregular (.address .noHost))
    else if 200 ≤ status ∧ status < 300 then fromBody room url contentType body
    else stop (.status status url)

/-- The characters of bytes, with every line end read as a line feed. -/
def textOfBytes (bytes : List UInt8) : Except Text.Utf8Fault (List Char) :=
  (Text.decodeUtf8 bytes).map Text.unifyNewlines

/-- The document in a file. -/
def fromFile (room : Nat) (path : Path) : Task m Document := do
  if (← Task.ofFiles (Machine.kind? path)) ≠ some .file then stop (.notFound path.text)
  else
    let bytes ← ExceptT.adapt
      (fun (fault : FileFault) =>
        Problem.failure (.description (.unreadable path.text fault.message)))
      (Machine.read path)
    let text ← Task.ofExcept (fun fault => .irregular (.notUtf8 fault)) (textOfBytes bytes)
    if Text.isBlankText text then stop (.empty path.text)
    else parseText room path.text (String.ofList text) (path.notation?.getD .unknown)

/-- The description files in a directory, in the order of their names. -/
def filesIn (directory : Path) : FileTask m (List Path) := do
  let names := Sorted.texts (← Machine.namesIn (m := m) directory)
  let paths := (names.map directory.child).filter fun path => path.notation?.isSome
  paths.filterM fun path => return (← Machine.kind? path) = some .file

/-- A document with the place it comes from. -/
def originating (room : Nat) (path : Path) : Task m (String × Document) := do
  return (path.text, ← fromFile room path)

/-- The documents in the files of a directory. -/
def fromDirectory (console : Console) (room : Nat) (directory : Path) :
    Task m (List (String × Document)) := do
  let paths ← Task.ofFiles (filesIn directory)
  if paths.isEmpty then stop (.noDocuments directory.text)
  else
    console.note (m := m)
      ("Loading " ++ toString paths.length ++ " descriptor files from " ++ directory.text)
    paths.mapM (originating (room - 2))

/-- The documents of a source, each with the place it comes from. -/
def load (console : Console) (room : Nat) (source : String) :
    Task m (List (String × Document)) := do
  match Source.ofText source with
  | .input => return [(inputOrigin, ← fromInput (room - 2))]
  | .address url => return [(url, ← fromAddress (room - 2) url)]
  | .files path =>
    if (← Task.ofFiles (Machine.kind? path)) = some .directory then
      fromDirectory console (room - 2) path
    else return [← originating (room - 2) path]

end Description

end Routewright
