import Routewright.Task

/-!
# The data directory

Where the program keeps files of its own. On systems with base directories it is among the data of
the user, elsewhere it is a hidden directory at home.
-/

namespace Routewright.DataDirectory

variable {m : Type → Type} [Monad m] [Machine m]

/-- The name of the program. -/
def programName : String := "restgen"

/-- Whether a system has base directories for the data of a user. -/
def hasBaseDirectories (platform : String) : Bool :=
  platform = "Linux" || platform.endsWith "BSD"

/-- A text without the separators at its end; the root is a single one. -/
def withoutTrailingSeparators (s : String) : String :=
  let kept := s.toList.reverse.dropWhile (· = '/')
  if kept.isEmpty then "/" else String.ofList kept.reverse

/-- The home directory: the one that the environment names, or that of the account. One that starts
with a tilde is not known. -/
def home : FileTask m Path := do
  match ← Machine.environment (m := m) "HOME" with
  | some s =>
    if s.startsWith "~" then throw .noHome
    else return Path.ofText (withoutTrailingSeparators s)
  | none => return Path.ofText (← Machine.accountHome (m := m))

/-- The directory for data of the user. -/
def userData : FileTask m Path := do
  let named := (← Machine.environment (m := m) "XDG_DATA_HOME").getD ""
  if named.isEmpty then return ((← home).child ".local").child "share"
  else return Path.ofText named

/-- The path of the data directory. -/
def path : FileTask m Path := do
  if hasBaseDirectories (← Machine.platform (m := m)) then return (← userData).child programName
  else return (← home).child ("." ++ programName)

/-- The data directory, which is made unless it is there. -/
def make : FileTask m Path := do
  let p ← path
  Machine.makeDirectories p
  return p

end Routewright.DataDirectory
