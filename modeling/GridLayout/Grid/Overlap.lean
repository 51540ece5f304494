import GridLayout.Issue
import GridLayout.Spec.Options

/-!
# The overlap audit

Once a layout is solved, every pair of boxes whose areas have a cell in common can be reported,
within and across sections.  Boxes are never moved for it.  A breakpoint that is asked for
repeatedly is looked at once, at its first mention.
-/

namespace GridLayout

variable {α : Type}

/-- How serious an overlap is under a policy; none when overlaps are allowed. -/
def OverlapPolicy.severity? : OverlapPolicy → Option Severity
  | .allow => none
  | .warn => some .warning
  | .error => some .error

/-- The distinct breakpoints of a list, in the order of their first mention. -/
def distinctBreakpoints : List Breakpoint → List Breakpoint
  | [] => []
  | bp :: rest => bp :: (distinctBreakpoints rest).filter fun other => decide (other ≠ bp)

/-- All pairs of a list, the earlier member first. -/
def pairs {β : Type} : List β → List (β × β)
  | [] => []
  | a :: rest => rest.map (fun b => (a, b)) ++ pairs rest

/-- The pairs of boxes at a breakpoint that overlap. -/
def overlapsAt [Scalar α] (plan : GridPlan α) (bp : Breakpoint) :
    List (GridPlan.Placed α × GridPlan.Placed α) :=
  (pairs (plan.placedAt bp)).filter fun p => p.1.area.intersects p.2.area

/-- The overlaps at some breakpoints, as issues of the severity that the policy asks for. -/
def overlapIssues [Scalar α] (plan : GridPlan α) (breakpoints : List Breakpoint)
    (policy : OverlapPolicy) : List (Issue α) :=
  match policy.severity? with
  | none => []
  | some severity =>
    (distinctBreakpoints breakpoints).flatMap fun bp =>
      (overlapsAt plan bp).map fun p => .overlap severity bp p.1 p.2

end GridLayout
