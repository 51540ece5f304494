import GridLayout.Geometry.GridBox
import GridLayout.IdMap
import GridLayout.Value

/-!
# Operations

An operation says where a box is to go: onto a point, by a displacement, in line with something
along one axis, or into a stack with all its neighbours.  The same operations arrange the boxes of a
section and the sections of a layout.

An argument may be of the wrong shape or missing altogether.  The operation still loads; the
argument is kept as the raw value that stood there, and is reported when the operation is carried
out.
-/

namespace GridLayout

/-! ## Arguments -/

/-- A box and one of its anchors, by name. -/
structure AnchorRef where
  boxId : String
  anchor : String
  deriving DecidableEq, Repr

/-- A box, by name. -/
structure BoxRef where
  boxId : String
  deriving DecidableEq, Repr

/-- An argument of type `β`, or what stood in its place. -/
inductive Param (α β : Type) where
  | valid (value : β)
  | malformed (raw : Value α)
  deriving Repr

/-- Where something is to go.  A number stands for the point with that number on both axes. -/
inductive Target (α : Type) where
  | point (location : Coordinate α)
  | value (v : α)
  | anchor (ref : AnchorRef)
  | malformed (raw : Value α)
  deriving Repr

/-- A displacement.  A number stands for that amount on both axes. -/
inductive Offset (α : Type) where
  | vector (delta : Coordinate α)
  | uniform (amount : α)
  | malformed (raw : Value α)
  deriving Repr

/-! ## Operations -/

/-- One positioning operation. -/
inductive Operation (α : Type) where
  /-- Puts an anchor of a box on the target, plus the gap. -/
  | moveTo (source : Param α AnchorRef) (target : Target α) (gap : Option (Offset α))
  /-- Moves a box by a displacement, plus the gap. -/
  | moveBy (source : Param α BoxRef) (displacement : Offset α) (gap : Option (Offset α))
  /-- Puts an anchor of a box on the target along one axis only. -/
  | align (axis : Axis) (source : Param α AnchorRef) (target : Target α)
    (gap : Option (Param α α))
  /-- Puts the same anchor of every box on the target along one axis. -/
  | alignAll (axis : Axis) (target : Target α) (anchor : Param α String)
    (gap : Option (Param α α))
  /-- Lays the boxes one after another along an axis, in their order. -/
  | stack (axis : Axis) (gap : Option (Param α α))
  deriving Repr

namespace Operation

variable {α : Type}

/-- The name of an operation in documents. -/
def verb : Operation α → String
  | .moveTo .. => "moveTo"
  | .moveBy .. => "moveBy"
  | .align .x .. => "alignToX"
  | .align .y .. => "alignToY"
  | .alignAll .x .. => "alignAllToX"
  | .alignAll .y .. => "alignAllToY"
  | .stack .x .. => "stackHorizontally"
  | .stack .y .. => "stackVertically"

/-- All names of operations, in the order they are listed in messages. -/
def verbs : List String :=
  ["moveTo", "moveBy", "alignToX", "alignToY", "alignAllToX", "alignAllToY", "stackHorizontally",
    "stackVertically"]

/-- Boxes in a stack with a gap between neighbours. -/
def stacked (axis : Axis) (gap : α) : Operation α := .stack axis (some (.valid gap))

end Operation

end GridLayout
