import GridLayout.Arrange.Section
import GridLayout.Grid.Normalization

/-!
# From sections to one grid

Sections are arranged among each other by their bounding boxes.  At each breakpoint every bounding
box is put on the first line of the grid, and the operations of the layout move the bounding boxes
about.  The boxes of a section go where their bounding box goes.  The grid reaches to the farthest
corner of a bounding box, and in the end everything is shifted onto the grid.
-/

namespace GridLayout

variable {α : Type} [Scalar α]

/-- The corner of the first cell of a grid. -/
def gridOrigin : Coordinate α := ⟨Scalar.one, Scalar.one⟩

/-- The bounding boxes of one breakpoint, arranged. -/
structure Positioned (α : Type) [Scalar α] where
  /-- Where the bounding boxes were in their sections. -/
  corners : IdMap (Coordinate α)
  /-- Where they are on the grid. -/
  boxes : BoxMap α
  failures : List (Operation α × Failure α)

/-- Puts the bounding boxes on the first line and carries out the operations of the layout. -/
def positionSections (bounds : BoxMap α) (ops : List (Operation α)) : Positioned α :=
  let (boxes, failures) :=
    Operation.runAll ops (bounds.map fun b => { b with origin := gridOrigin })
  ⟨bounds.map GridBox.origin, boxes, failures⟩

/-- Moves the boxes of a section from where its bounding box was to where it is.  A section without
bounding box stays where it is. -/
def Positioned.carry (p : Positioned α) (sectionId : String) (b : GridBox α) : GridBox α :=
  match p.corners.get? sectionId, p.boxes.get? sectionId with
  | some was, some is => { b with origin := b.origin - was + is.origin }
  | _, _ => b

/-- The farthest corner of the bounding boxes, and never before the origin. -/
def Positioned.dimensions (p : Positioned α) : GridDimensions α :=
  let far := p.boxes.values.foldl (fun acc b => acc.max b.farCorner) Coordinate.zero
  ⟨far.x, far.y⟩

/-- The grid of one breakpoint. -/
def assembleAt (bp : Breakpoint) (sections : IdMap (BoxMap α)) (bounds : BoxMap α)
    (ops : List (Operation α)) : Normalized α :=
  let placed := positionSections bounds ops
  let areas := sections.mapEntries fun id boxes =>
    boxes.map fun b => GridArea.ofBox (placed.carry id b)
  let result := normalizeAt bp areas placed.dimensions
  { result with issues := operationIssues ⟨bp, none⟩ placed.failures ++ result.issues }

/-- The grids of all breakpoints. -/
def assemble (sections : IdMap (LocalBoxes α)) (bounds : IdMap (Bps (GridBox α)))
    (schedule : Option (Schedule α)) : GridPlan α × List (Issue α) :=
  let grids := Bps.ofFn fun bp =>
    assembleAt bp (sections.map fun s => s.get bp) (bounds.map fun b => b.get bp)
      (Schedule.at? schedule bp)
  let plan : GridPlan α :=
    { sections := sections.mapEntries fun id _ =>
        grids.map fun _ g => (g.areas.get? id).getD IdMap.empty
      dimensions := grids.map fun _ g => g.dimensions
      normalization := grids.map fun _ g => g.shift }
  (plan, grids.toList.flatMap Normalized.issues)

end GridLayout
