import GridLayout.Scalar

/-!
# Coordinates and axes

A `Coordinate` is a point of the layout plane or a displacement in it.  Columns run along the first
axis and rows along the second.

Rotation is by an angle in degrees.  A whole number of quarter turns is carried out by swapping and
negating components, so that vectors on the grid stay on the grid; any other angle goes through sine
and cosine.  Both live on doubles, the quarter turns alone on any numbers.
-/

namespace GridLayout

/-- One of the two axes. -/
inductive Axis where
  | x
  | y
  deriving DecidableEq, Repr

/-- The other axis. -/
def Axis.other : Axis → Axis
  | .x => .y
  | .y => .x

@[simp] theorem Axis.other_other (a : Axis) : a.other.other = a := by cases a <;> rfl

/-- A point, or a displacement. -/
@[ext]
structure Coordinate (α : Type) where
  x : α
  y : α
  deriving DecidableEq, Repr

namespace Coordinate

variable {α : Type}

/-- The component along an axis. -/
def along (a : Coordinate α) : Axis → α
  | .x => a.x
  | .y => a.y

@[simp] theorem along_x (a : Coordinate α) : a.along .x = a.x := rfl
@[simp] theorem along_y (a : Coordinate α) : a.along .y = a.y := rfl

variable [Scalar α]

/-! ## Construction -/

/-- The origin of the plane. -/
def zero : Coordinate α := ⟨Scalar.zero, Scalar.zero⟩

/-- The same amount on both axes. -/
def splat (v : α) : Coordinate α := ⟨v, v⟩

/-- An amount on one axis and nothing on the other. -/
def onAxis (axis : Axis) (amount : α) : Coordinate α :=
  match axis with
  | .x => ⟨amount, Scalar.zero⟩
  | .y => ⟨Scalar.zero, amount⟩

/-! ## Arithmetic -/

instance : Add (Coordinate α) := ⟨fun a b => ⟨a.x + b.x, a.y + b.y⟩⟩
instance : Sub (Coordinate α) := ⟨fun a b => ⟨a.x - b.x, a.y - b.y⟩⟩
instance : Neg (Coordinate α) := ⟨fun a => ⟨-a.x, -a.y⟩⟩

@[simp] theorem x_add (a b : Coordinate α) : (a + b).x = a.x + b.x := rfl
@[simp] theorem y_add (a b : Coordinate α) : (a + b).y = a.y + b.y := rfl
@[simp] theorem x_sub (a b : Coordinate α) : (a - b).x = a.x - b.x := rfl
@[simp] theorem y_sub (a b : Coordinate α) : (a - b).y = a.y - b.y := rfl
@[simp] theorem x_neg (a : Coordinate α) : (-a).x = -a.x := rfl
@[simp] theorem y_neg (a : Coordinate α) : (-a).y = -a.y := rfl

/-- Both components times one factor. -/
def scale (a : Coordinate α) (factor : α) : Coordinate α := ⟨a.x * factor, a.y * factor⟩

/-- The reflection in the vertical axis. -/
def reflectX (a : Coordinate α) : Coordinate α := ⟨-a.x, a.y⟩

/-- The reflection in the horizontal axis. -/
def reflectY (a : Coordinate α) : Coordinate α := ⟨a.x, -a.y⟩

/-- Absolute value of both components. -/
def abs (a : Coordinate α) : Coordinate α := ⟨Scalar.abs a.x, Scalar.abs a.y⟩

/-- The lesser of either component. -/
def min (a b : Coordinate α) : Coordinate α := ⟨Scalar.min a.x b.x, Scalar.min a.y b.y⟩

/-- The greater of either component. -/
def max (a b : Coordinate α) : Coordinate α := ⟨Scalar.max a.x b.x, Scalar.max a.y b.y⟩

/-- Both components are finite. -/
def isFinite (a : Coordinate α) : Bool := Scalar.isFinite a.x && Scalar.isFinite a.y

/-- Text in messages. -/
def text (a : Coordinate α) : String := s!"({Scalar.plain a.x}, {Scalar.plain a.y})"

/-! ## Rotation -/

/-- A quarter turn, counter-clockwise. -/
def quarterTurn (a : Coordinate α) : Coordinate α := ⟨-a.y, a.x⟩

/-- The least and the greatest count of quarter turns that is told apart from its neighbours. -/
def saturate (turns : Int) : Int :=
  Max.max (-Number.wordBound) (Min.min turns (Number.wordBound - 1))

/-- A whole number of quarter turns, counted modulo four once it is in range. -/
def turn (a : Coordinate α) (turns : Int) : Coordinate α :=
  match (saturate turns) % 4 with
  | 0 => a
  | 1 => a.quarterTurn
  | 2 => -a
  | _ => ⟨a.y, -a.x⟩

/-- Rotates counter-clockwise about the origin by an angle in degrees. -/
def rotate (a : Coordinate Float) (degrees : Float) : Coordinate Float :=
  let turns := degrees / 90.0
  if Number.isWhole turns then
    a.turn (Number.truncate turns)
  else
    let radians := degrees * (3.141592653589793 / 180.0)
    let s := radians.sin
    let c := radians.cos
    ⟨a.x * c - a.y * s, a.x * s + a.y * c⟩

end Coordinate

end GridLayout
