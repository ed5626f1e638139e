import Routewright.Failure
import Routewright.Machine

/-!
# Tasks

Operations on a machine that may end in a problem.
-/

namespace Routewright

/-- An operation that may end in a problem. -/
abbrev Task (m : Type → Type) := ExceptT Problem m

namespace Task

variable {m : Type → Type} [Monad m] {α ε : Type}

/-- A result that is there already. -/
def ofExcept (problem : ε → Problem) (r : Except ε α) : Task m α :=
  ExceptT.mk (pure (r.mapError problem))

/-- An operation on files. -/
def ofFiles (operation : FileTask m α) : Task m α :=
  ExceptT.adapt Problem.file operation

/-- A failure that is told to the user. -/
def fail (f : Failure) : Task m α :=
  throw (.failure f)

end Task

end Routewright
