import Routewright.Policy
import Routewright.Validation

/-!
# Policies as settings

A generation policy read from settings. Unknown fields are ignored, fields that are left out keep
their defaults.
-/

namespace Routewright

/-- A rule for a derived endpoint. -/
def DerivedRule.check : Value → Checked DerivedRule :=
  Checked.model fun fields =>
    (Checked.required fields "source" Checked.text).map DerivedRule.mk
      |>.ap (Checked.required fields "target" Checked.text)
      |>.ap (Checked.optional fields "method" (Checked.choice HttpMethod.ofName?) .get)
      |>.ap (Checked.optional fields "clear_body" Checked.truth true)

/-- An order of methods, or null for none. -/
def checkVerbOrder : Value → Checked (Option (List HttpMethod))
  | .null => .valid none
  | v => (Checked.list (Checked.choice HttpMethod.ofName?) v).map some

/-- A generation policy. -/
def Policy.check : Value → Checked Policy :=
  Checked.model fun fields =>
    let strategy := Checked.choice Strategy.ofLabel?
    (Checked.optional fields "strategy" strategy .push).map Policy.mk
      |>.ap (Checked.optional fields "strategy_overrides" (Checked.mapping strategy) [])
      |>.ap (Checked.optional fields "verb_order" checkVerbOrder none)
      |>.ap (Checked.optional fields "derived" (Checked.list DerivedRule.check) [])

/-- The policy that settings describe. -/
def Policy.ofValue (v : Value) : Except ValidationError Policy :=
  Checked.validate "GenerationPolicy" (Policy.check v)

/-- The rule that settings describe. -/
def DerivedRule.ofValue (v : Value) : Except ValidationError DerivedRule :=
  Checked.validate "DerivedEndpointRule" (DerivedRule.check v)

end Routewright
