import GridLayout.Issue
import GridLayout.Spec.Layout
import GridLayout.Spec.Options

/-!
# Sizes of boxes

A box names a shape, for all breakpoints or for each, and a catalog knows the sizes of shapes.
Where the two do not lead to a usable size, the box gets the fallback size of the options, and an
issue says why.

`Catalog.find` and `Dimension.find` answer with a size or with the issue; `Dimension.sizes` and
`Dimension.issues` are the two readings of these answers.  A dimension that is one name for all
breakpoints is looked up once, so it is reported once.
-/

namespace GridLayout

variable {α : Type} [Scalar α]

/-- The size of a shape, or why it cannot be used. -/
def Catalog.find (catalog : Catalog α) (shape : String) (box : BoxPlace) (bp : Option Breakpoint)
    (fallback : Coordinate α) : Except (Issue α) (Coordinate α) :=
  match catalog shape with
  | some size =>
    if isUsableSize size.1 size.2 then .ok ⟨size.1, size.2⟩
    else .error (.shapeInvalid box bp shape size fallback)
  | none => .error (.shapeUnknown box bp shape fallback)

namespace Dimension

/-- The size that a dimension gives a box at a breakpoint, or why there is none. -/
def find (d : Dimension α) (catalog : Catalog α) (box : BoxPlace) (bp : Breakpoint)
    (fallback : Coordinate α) : Except (Issue α) (Coordinate α) :=
  match d with
  | .uniform shape => catalog.find shape box none fallback
  | .perBreakpoint _ =>
    match d.entry? bp with
    | some (.string shape) => catalog.find shape box (some bp) fallback
    | entry => .error (.shapeMissing box bp entry fallback)
  | .malformed raw => .error (.shapeMalformed box bp raw fallback)

/-- The size of a box at every breakpoint. -/
def sizes (d : Dimension α) (catalog : Catalog α) (options : Options α) (box : BoxPlace) :
    Bps (Coordinate α) :=
  Bps.ofFn fun bp =>
    match d.find catalog box bp options.fallback with
    | .ok size => size
    | .error _ => options.fallback

/-- The breakpoints at which a dimension is looked up: one look-up serves for a name that holds
everywhere. -/
def lookups : Dimension α → List Breakpoint
  | .uniform _ => [.xs]
  | _ => Breakpoint.all

/-- Why a box got the fallback size. -/
def issues (d : Dimension α) (catalog : Catalog α) (options : Options α) (box : BoxPlace) :
    List (Issue α) :=
  d.lookups.flatMap fun bp =>
    match d.find catalog box bp options.fallback with
    | .ok _ => []
    | .error issue => [issue]

end Dimension

end GridLayout
