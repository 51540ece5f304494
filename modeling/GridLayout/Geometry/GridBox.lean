import GridLayout.Geometry.Coordinate

/-!
# Boxes and their anchors

A `GridBox` is an axis-aligned rectangle: the corner with the least coordinates, and the diagonal
from there to the opposite corner.  A diagonal handed in with a negative component is replaced by
its absolute value (`GridBox.new`).  That a diagonal is an absolute value is a field of the type, so
no box points backwards, whatever is done with it: a move keeps the diagonal, and a box around
others is a new one.

Moves and alignments speak of a box by one of five `Anchor`s.
-/

namespace GridLayout

/-! ## Anchors -/

/-- A reference point of a box. -/
inductive Anchor where
  | bottomLeft
  | bottomRight
  | topLeft
  | topRight
  | center
  deriving DecidableEq, Repr

namespace Anchor

/-- All anchors, in the order they are listed in messages. -/
def all : List Anchor := [.bottomLeft, .bottomRight, .topLeft, .topRight, .center]

/-- The name of an anchor in documents. -/
def name : Anchor → String
  | .bottomLeft => "bottomLeft"
  | .bottomRight => "bottomRight"
  | .topLeft => "topLeft"
  | .topRight => "topRight"
  | .center => "center"

/-- The anchor of a name, case and all. -/
def ofName? (s : String) : Option Anchor := all.find? fun a => a.name == s

/-- The names of all anchors, for messages. -/
def names : String := ", ".intercalate (all.map name)

@[simp] theorem ofName?_name (a : Anchor) : ofName? a.name = some a := by
  cases a <;> decide +kernel

end Anchor

/-! ## Boxes -/

/-- An axis-aligned rectangle. -/
@[ext]
structure GridBox (α : Type) [Scalar α] where
  /-- The corner with the least coordinates. -/
  origin : Coordinate α
  /-- From the origin to the opposite corner. -/
  diagonal : Coordinate α
  /-- The diagonal is the absolute value of some coordinate. -/
  exists_abs_eq : ∃ extent : Coordinate α, extent.abs = diagonal
  deriving DecidableEq, Repr

namespace GridBox

variable {α : Type} [Scalar α]

/-- The box at `origin` with the extent of `diagonal`. -/
def new (origin diagonal : Coordinate α) : GridBox α := ⟨origin, diagonal.abs, diagonal, rfl⟩

/-- The box of a given size at the origin of the plane. -/
def atOrigin (diagonal : Coordinate α) : GridBox α := new Coordinate.zero diagonal

/-- The box at the origin of the plane with no extent. -/
def empty : GridBox α := new Coordinate.zero Coordinate.zero

/-- The extent along the first axis. -/
def width (b : GridBox α) : α := b.diagonal.x

/-- The extent along the second axis. -/
def height (b : GridBox α) : α := b.diagonal.y

/-- The corner opposite the origin. -/
def farCorner (b : GridBox α) : Coordinate α := b.origin + b.diagonal

/-- The point an anchor stands for. -/
def anchor (b : GridBox α) : Anchor → Coordinate α
  | .bottomLeft => b.origin
  | .bottomRight => b.origin + ⟨b.diagonal.x, Scalar.zero⟩
  | .topLeft => b.origin + ⟨Scalar.zero, b.diagonal.y⟩
  | .topRight => b.origin + b.diagonal
  | .center => b.origin + b.diagonal.scale Scalar.half

/-- The same box, moved. -/
def translate (b : GridBox α) (delta : Coordinate α) : GridBox α :=
  { b with origin := b.origin + delta }

@[simp] theorem origin_translate (b : GridBox α) (d : Coordinate α) :
    (b.translate d).origin = b.origin + d := rfl

@[simp] theorem diagonal_translate (b : GridBox α) (d : Coordinate α) :
    (b.translate d).diagonal = b.diagonal := rfl

/-- The smallest box around two boxes. -/
def union (a b : GridBox α) : GridBox α :=
  let least := a.origin.min b.origin
  let greatest := a.farCorner.max b.farCorner
  new least (greatest - least)

end GridBox

end GridLayout
