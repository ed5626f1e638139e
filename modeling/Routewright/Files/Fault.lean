/-!
# Faults of files

Why something cannot be done with a file.
-/

namespace Routewright

/-- What keeps an operation on a file from being done. -/
inductive FileFault
  /-- There is nothing at the place, or no way to it. -/
  | missing
  /-- There is something at the place already. -/
  | present
  /-- A file stands where a directory is needed. -/
  | notDirectory
  /-- A directory stands where a file is needed. -/
  | isDirectory
  /-- No file can have the name. -/
  | badName
  /-- A path, or a name in it, is longer than files are looked up by. -/
  | tooLong
  /-- The home directory is not known. -/
  | noHome
  /-- A step of writing failed, as reported by the machine. -/
  | failed (reason : String)
  deriving DecidableEq, Repr

/-- The wording of a fault. -/
def FileFault.message : FileFault → String
  | .missing => "no such file or directory"
  | .present => "something is there already"
  | .notDirectory => "not a directory"
  | .isDirectory => "is a directory"
  | .badName => "no file can have this name"
  | .tooLong => "file name too long"
  | .noHome => "the home directory is not known"
  | .failed reason => reason

end Routewright
