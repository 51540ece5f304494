import GridLayout.Arrange.Bounds
import GridLayout.Grid.Assembly
import GridLayout.Grid.Overlap

/-!
# Solving a layout

A solve takes a layout through its stages: every section on its own, their bounding boxes, one grid
out of all sections, the overlap audit.  It always comes to an end with a grid; what had to be
assumed on the way is in the issues, stage by stage.
-/

namespace GridLayout

variable {α : Type} [Scalar α]

/-- The stages of a solve with what each of them reported. -/
structure Stages (α : Type) [Scalar α] where
  sections : IdMap (LocalBoxes α)
  sectionIssues : List (Issue α)
  bounds : IdMap (Bps (GridBox α))
  boundsIssues : List (Issue α)
  plan : GridPlan α
  planIssues : List (Issue α)
  overlapIssues : List (Issue α)

/-- Takes a layout through all stages. -/
def LayoutSpec.stages (layout : LayoutSpec α) (catalog : Catalog α) (options : Options α) :
    Stages α :=
  let (sections, sectionIssues) := layout.arrangeSections catalog options
  let (bounds, boundsIssues) := sectionBounds sections
  let (plan, planIssues) := assemble sections bounds layout.schedule
  ⟨sections, sectionIssues, bounds, boundsIssues, plan, planIssues,
    overlapIssues plan options.overlapBreakpoints options.overlapPolicy⟩

/-- All issues, in the order of the stages. -/
def Stages.issues (s : Stages α) : List (Issue α) :=
  s.sectionIssues ++ s.boundsIssues ++ s.planIssues ++ s.overlapIssues

/-- A solved layout. -/
structure Solution (α : Type) where
  plan : GridPlan α
  diagnostics : List (Diagnostic α)

/-- Solves a layout. -/
def solve (layout : LayoutSpec α) (catalog : Catalog α) (options : Options α) : Solution α :=
  let stages := layout.stages catalog options
  ⟨stages.plan, stages.issues.map Issue.diagnostic⟩

namespace Solution

/-- The strict reading of a solution: the solution itself when nothing is reported as an error, and
otherwise the errors. -/
def strict (s : Solution α) : Except (List (Diagnostic α)) (Solution α) :=
  (Diagnostic.verdict s.diagnostics).map fun ds => { s with diagnostics := ds }

/-- A solution as data. -/
def toValue (s : Solution α) : Value α :=
  .object [("layout", s.plan.toValue),
    ("diagnostics", .list (s.diagnostics.map Diagnostic.toValue))]

end Solution

end GridLayout
