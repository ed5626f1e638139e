import Routewright.Proofs.Parameters
import Routewright.Proofs.StringLiteral

/-!
# Capacities and what is pushed

Segments are gone through once for the terms of a capacity, once for the lengths that generated code
adds up, once more for the statements that push, and each target writes lengths in a unit of its
own. All of them leave empty literals out and keep the order, so each is one function of what is
contributed, item by item (`contributions`), and `capacity_eq_contributions` puts them side by side.
-/

namespace Routewright

open Code

namespace Segment

/-- The summand that a contribution adds to a capacity. -/
def term : Segment → CapacityTerm
  | .literal text => .literal text.length
  | .param name => .value name

/-- How a target writes the length of a contribution. A literal is counted in code points for
Python and in bytes of UTF-8 for Rust. -/
def lengthText : Target → Segment → String
  | .python, .literal text => toString text.length
  | .python, .param name => "len(" ++ Python.ident name ++ ")"
  | .rust, .literal text => toString text.utf8ByteSize
  | .rust, .param name => Rust.ident name ++ ".len()"

end Segment

namespace Target

theorem expr_sum (target : Target) (left right : Expr) :
    target.expr (.sum left right) = target.expr left ++ " + " ++ target.expr right := by
  cases target <;> rfl

/-- The length of a contribution is written as a number or as the length of an identifier. -/
theorem expr_length_value (target : Target) (s : Segment) :
    target.expr (.length s.value) = s.lengthText target := by
  cases s with
  | literal text => cases target <;> rfl
  | param name => cases target <;> rfl

end Target

namespace UrlBuilder

/-- What segments contribute to a url, in order : the base address and all segments but literals
without characters. -/
def contributions (segments : List Segment) : List Segment :=
  .param baseParam :: segments.filter (· ≠ .literal "")

variable (segments : List Segment)

theorem segmentTerms_eq_map :
    segmentTerms segments = (segments.filter (· ≠ .literal "")).map Segment.term :=
  walk_eq_map_filter rfl (fun _ _ => rfl) (fun _ _ => rfl) segments

/-- For all segments, the terms of the capacity, the summands of its expression, which is nested to
the left, the summands that either target writes between plus signs, and the values that are pushed
into a buffer of that capacity stand for one list of contributions, item by item. -/
theorem capacity_eq_contributions (params : List String) :
    capacityTerms segments = (contributions segments).map Segment.term ∧
    (∃ first rest, contributions segments = first :: rest ∧
      capacityExpr segments =
        (rest.map fun s => .length s.value).foldl Expr.sum (.length first.value)) ∧
    (∀ target : Target, target.expr (capacityExpr segments) =
      Text.join " + " ((contributions segments).map (Segment.lengthText target))) ∧
    bodyOf (.push segments params) =
      .bind bufferName (.newBuffer (capacityExpr segments)) true ::
        ((contributions segments).map fun s => .push bufferName s.value) ++
        [.result (.convert urlType (.finishBuffer (.variable bufferName)))] := by
  have hexpr : capacityExpr segments =
      ((segments.filter (· ≠ .literal "")).map fun s => .length s.value).foldl Expr.sum
        (.length (.variable baseParam)) := by
    rw [capacityExpr, segmentLengths_eq_map]
  refine ⟨?_, ⟨_, _, rfl, hexpr⟩, fun target => ?_, ?_⟩
  · rw [capacityTerms, segmentTerms_eq_map]
    rfl
  · rw [hexpr, write_foldl_sum target.expr_sum, List.map_map, contributions, List.map_cons]
    refine congrArg (Text.join " + ") (congrArg₂ List.cons ?_ ?_)
    · exact target.expr_length_value (.param baseParam)
    · exact List.map_congr_left fun s _ => target.expr_length_value s
  · rw [bodyOf, segmentPushes_eq_map]
    rfl

example :
    let segments := [.literal "/é", .param "class", .literal "", .literal "/"]
    Target.python.expr (capacityExpr segments) = "len(base) + 2 + len(class_) + 1" ∧
      Target.rust.expr (capacityExpr segments) = "base.len() + 3 + class.len() + 1" := by
  decide

end UrlBuilder

end Routewright
