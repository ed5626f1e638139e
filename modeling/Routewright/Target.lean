import Routewright.Target.PythonSource
import Routewright.Target.RustSource

/-!
# Target languages

The languages that generated code can be written in.
-/

namespace Routewright

/-- A target language. -/
inductive Target
  | python
  | rust
  deriving DecidableEq, Repr

namespace Target

/-- The label of a target. -/
def label : Target → String
  | .python => "python"
  | .rust => "rust"

/-- Every target. -/
def all : List Target :=
  [.python, .rust]

/-- The target of a label. -/
def ofLabel? (s : String) : Option Target :=
  all.find? fun t => t.label = s

/-- What is said about a label that no target has. -/
def unknownMessage (s : String) : String :=
  "Unknown target '" ++ s ++ "' (expected one of: " ++ Text.join ", " (all.map label) ++ ")"

/-- The text of a source file, with its opening comment if `marked`. -/
def source (target : Target) (code : Code.Module) (marked : Bool) : String :=
  match target with
  | .python => Code.Python.module code marked
  | .rust => Code.Rust.module code marked

end Target

end Routewright
