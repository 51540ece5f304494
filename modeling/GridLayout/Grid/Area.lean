import GridLayout.Breakpoint
import GridLayout.Geometry.GridBox
import GridLayout.IdMap
import GridLayout.Value

/-!
# Grid areas

A solved layout gives every box its lines on a CSS grid.  Lines are numbered from one; an area runs
from its start lines up to, and not including, its end lines.
-/

namespace GridLayout

/-! ## Areas -/

/-- A box as grid lines. -/
@[ext]
structure GridArea (α : Type) where
  colStart : α
  colEnd : α
  rowStart : α
  rowEnd : α
  deriving DecidableEq, Repr

namespace GridArea

variable {α : Type}

section

variable [Scalar α]

/-- The lines of a box. -/
def ofBox (b : GridBox α) : GridArea α :=
  ⟨b.origin.x, b.origin.x + b.width, b.origin.y, b.origin.y + b.height⟩

/-- The same area, shifted. -/
def translate (a : GridArea α) (d : Coordinate α) : GridArea α :=
  ⟨a.colStart + d.x, a.colEnd + d.x, a.rowStart + d.y, a.rowEnd + d.y⟩

/-- Whether two areas have a cell in common; a shared edge is none. -/
def intersects (a b : GridArea α) : Bool :=
  Scalar.lt a.colStart b.colEnd && Scalar.lt b.colStart a.colEnd &&
    Scalar.lt a.rowStart b.rowEnd && Scalar.lt b.rowStart a.rowEnd

/-- The value of the CSS property that places a box. -/
def css (a : GridArea α) : String :=
  s!"{Scalar.plain a.rowStart} / {Scalar.plain a.colStart} / {Scalar.plain a.rowEnd} / " ++
    Scalar.plain a.colEnd

end

/-- The corner with the least lines. -/
def start (a : GridArea α) : Coordinate α := ⟨a.colStart, a.rowStart⟩

/-- The area as data. -/
def toValue (a : GridArea α) : Value α :=
  .object [("colStart", .float a.colStart), ("colEnd", .float a.colEnd),
    ("rowStart", .float a.rowStart), ("rowEnd", .float a.rowEnd)]

end GridArea

/-! ## Grids -/

/-- The last lines of a grid. -/
@[ext]
structure GridDimensions (α : Type) where
  columns : α
  rows : α
  deriving DecidableEq, Repr

/-- A grid of one cell. -/
def GridDimensions.unit {α : Type} [Scalar α] : GridDimensions α := ⟨Scalar.one, Scalar.one⟩

/-- The areas of the boxes of every section at one breakpoint. -/
abbrev AreaMap (α : Type) := IdMap (IdMap (GridArea α))

/-- A solved layout. -/
structure GridPlan (α : Type) where
  /-- The areas by section, breakpoint and box. -/
  sections : IdMap (Bps (IdMap (GridArea α)))
  dimensions : Bps (GridDimensions α)
  /-- The shift that brought every line to one or above. -/
  normalization : Bps (Coordinate α)

namespace GridPlan

variable {α : Type}

/-- The area of a box. -/
def area? (p : GridPlan α) (sectionId : String) (bp : Breakpoint) (boxId : String) :
    Option (GridArea α) :=
  (p.sections.get? sectionId).bind fun s => (s.get bp).get? boxId

/-- A box of a plan at one breakpoint. -/
structure Placed (α : Type) where
  sectionId : String
  boxId : String
  area : GridArea α
  deriving DecidableEq, Repr

/-- The name of a placed box in messages. -/
def Placed.name (p : Placed α) : String := s!"{p.sectionId}/{p.boxId}"

/-- Every box at a breakpoint, section by section. -/
def placedAt (p : GridPlan α) (bp : Breakpoint) : List (Placed α) :=
  p.sections.entries.flatMap fun s => (s.2.get bp).entries.map fun b => ⟨s.1, b.1, b.2⟩

/-- The plan as lines of text: the size of each grid, and under it the areas. -/
def lines [Scalar α] (p : GridPlan α) : List String :=
  p.dimensions.entries.flatMap fun d =>
    s!"{d.1.name}: {Scalar.plain d.2.columns} columns x {Scalar.plain d.2.rows} rows" ::
      (p.placedAt d.1).map fun b => s!"  {b.name}: {b.area.css}"

/-- The plan as text, a line break after every line. -/
def text [Scalar α] (p : GridPlan α) : String := String.join (p.lines.map fun l => l ++ "\n")

/-- A value for every breakpoint as data. -/
def bpsValue {β : Type} (f : β → Value α) (b : Bps β) : Value α :=
  .object (b.entries.map fun e => (e.1.name, f e.2))

/-- A map as data, in its order. -/
def mapValue {β : Type} (f : β → Value α) (m : IdMap β) : Value α :=
  .object (m.entries.map fun e => (e.1, f e.2))

/-- The plan as data. -/
def toValue (p : GridPlan α) : Value α :=
  .object [
    ("sections", mapValue (bpsValue (mapValue GridArea.toValue)) p.sections),
    ("dimensions", bpsValue (fun d =>
      .object [("columns", .float d.columns), ("rows", .float d.rows)]) p.dimensions),
    ("normalization", bpsValue (fun c =>
      .object [("x", .float c.x), ("y", .float c.y)]) p.normalization)]

end GridPlan

end GridLayout
