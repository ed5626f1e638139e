import Routewright.Config.Policy
import Routewright.Failure
import Routewright.Target

/-!
# Settings

What a project sets for its generation: where descriptions come from, where the code goes, and how
it is made. Settings are read from an object, and what the caller asks for goes before them.
-/

namespace Routewright

/-- The settings of a generation. -/
structure Settings where
  spec : String := "./spec"
  output : String := "-"
  target : Target := .python
  markers : Bool := true
  policy : Policy := {}
  deriving DecidableEq, Repr

namespace Settings

/-- Settings from an object. Unknown fields are ignored, fields that are left out keep their
defaults. -/
def check : Value → Checked Settings :=
  Checked.model fun fields =>
    (Checked.optional fields "spec" Checked.text "./spec").map Settings.mk
      |>.ap (Checked.optional fields "output" Checked.text "-")
      |>.ap (Checked.optional fields "target" (Checked.choice Target.ofLabel?) .python)
      |>.ap (Checked.optional fields "comment_markers" Checked.truth true)
      |>.ap (Checked.optional fields "policy" Policy.check {})

/-- The settings that an object describes. -/
def ofValue (v : Value) : Except ValidationError Settings :=
  Checked.validate "GeneratorConfig" (check v)

end Settings

/-- What the caller asks for in place of settings. -/
structure Overrides where
  spec : Option String := none
  output : Option String := none
  target : Option String := none
  strategy : Option String := none
  markers : Option Bool := none
  deriving DecidableEq, Repr

namespace Overrides

/-- The choice of a label, if one is asked for. -/
def choice {α ε : Type} (ofLabel? : String → Option α) (unknown : String → ε) :
    Option String → Except ε (Option α)
  | none => .ok none
  | some label =>
    match ofLabel? label with
    | some x => .ok (some x)
    | none => .error (unknown label)

end Overrides

namespace Settings

/-- Settings with what the caller asks for in their place. -/
def override (s : Settings) (o : Overrides) : Except ConfigFault Settings := do
  let target ← Overrides.choice Target.ofLabel? .unknownTarget o.target
  let strategy ← Overrides.choice Strategy.ofLabel? .unknownStrategy o.strategy
  return {
    spec := o.spec.getD s.spec
    output := o.output.getD s.output
    target := target.getD s.target
    markers := o.markers.getD s.markers
    policy := { s.policy with strategy := strategy.getD s.policy.strategy } }

end Settings

end Routewright
