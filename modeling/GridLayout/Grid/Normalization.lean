import GridLayout.Issue

/-!
# Bringing the grid to the first line

Grid lines are numbered from one.  `normalizeAt` shifts the areas of one breakpoint, all by the same
amount, so that none starts before the first line; the amount on an axis is the least that does it,
and nothing where nothing is needed.  `normalize` does the same to one breakpoint of a whole layout.
-/

namespace GridLayout

variable {α : Type} [Scalar α]

/-- The areas of one breakpoint after the shift. -/
structure Normalized (α : Type) where
  areas : AreaMap α
  dimensions : GridDimensions α
  shift : Coordinate α
  issues : List (Issue α)

/-- The least column and the least row at which an area starts. -/
def leastStart? (areas : AreaMap α) : Option (Coordinate α) :=
  match areas.values.flatMap fun s => s.values.map GridArea.start with
  | [] => none
  | c :: rest => some (rest.foldl Coordinate.min c)

/-- Whether a corner is on the grid. -/
def onGrid (c : Coordinate α) : Bool := Scalar.le Scalar.one c.x && Scalar.le Scalar.one c.y

/-- How far a line has to move to be the first or a later one. -/
def shiftToOne (v : α) : α := Scalar.max (Scalar.one - v) Scalar.zero

/-- A grid grown by a shift. -/
def GridDimensions.grow (d : GridDimensions α) (shift : Coordinate α) : GridDimensions α :=
  ⟨d.columns + shift.x, d.rows + shift.y⟩

/-- Shifts the areas of one breakpoint onto the grid. -/
def normalizeAt (bp : Breakpoint) (areas : AreaMap α) (dimensions : GridDimensions α) :
    Normalized α :=
  match leastStart? areas with
  | none => ⟨areas, GridDimensions.unit, Coordinate.zero, [.gridEmpty bp]⟩
  | some least =>
    if onGrid least then ⟨areas, dimensions, Coordinate.zero, []⟩
    else
      let shift : Coordinate α := ⟨shiftToOne least.x, shiftToOne least.y⟩
      ⟨areas.map fun s => s.map fun a => a.translate shift, dimensions.grow shift, shift,
        [.gridShifted bp least shift]⟩

/-! ## One breakpoint of a layout -/

/-- The areas of one breakpoint. -/
def sliceAt (sections : IdMap (Bps (IdMap (GridArea α)))) (bp : Breakpoint) : AreaMap α :=
  sections.map fun s => s.get bp

/-- A layout with the areas of one breakpoint replaced, section by section. -/
def putSlice (sections : IdMap (Bps (IdMap (GridArea α)))) (bp : Breakpoint) (areas : AreaMap α) :
    IdMap (Bps (IdMap (GridArea α))) :=
  sections.mapEntries fun id s => s.set bp ((areas.get? id).getD (s.get bp))

/-- Shifts the areas of one breakpoint of a layout onto the grid. -/
def normalize (sections : IdMap (Bps (IdMap (GridArea α)))) (dimensions : GridDimensions α)
    (bp : Breakpoint) : IdMap (Bps (IdMap (GridArea α))) × Normalized α :=
  let result := normalizeAt bp (sliceAt sections bp) dimensions
  (putSlice sections bp result.areas, result)

end GridLayout
