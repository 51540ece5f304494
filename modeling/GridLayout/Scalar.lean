import GridLayout.Number.Text

/-!
# The numbers a layout is computed with

Every stage of a solve (sizes, moves, bounds, grid lines, the overlap audit) uses a handful of
operations on coordinates and nothing else.  `Scalar` names them, and the stages are written over
any type that has them.  Two types do:

* `Float`, the doubles that documents hold and answers print;
* `Rat`, exact rationals, where no operation rounds and every number is finite.

A statement about the geometry of a layout is a statement at `Rat` of the very definitions that run
at `Float`.

## Operands that are not numbers

`Scalar.min` and `Scalar.max` ignore an operand that is not a number, and of two equal operands
keep the first, so that a signed zero survives.
-/

namespace GridLayout

/-- The operations a layout is computed with. -/
class Scalar (α : Type) extends Add α, Sub α, Neg α, Mul α where
  /-- Nothing. -/
  zero : α
  /-- The first grid line. -/
  one : α
  /-- The factor that halves. -/
  half : α
  /-- Absolute value. -/
  abs : α → α
  /-- Strictly less. -/
  lt : α → α → Bool
  /-- Less or equal. -/
  le : α → α → Bool
  /-- Whether this stands for no number at all. -/
  isNaN : α → Bool
  /-- Whether this is a number, and not an infinite one. -/
  isFinite : α → Bool
  /-- Whether two numbers are written the same, zeros of either sign and NaNs told apart. -/
  same : α → α → Bool
  /-- The nearest number to an integer. -/
  ofInt : Int → α
  /-- Text in messages: positional, without a needless fraction. -/
  plain : α → String
  /-- Text as a JSON value. -/
  token : α → String

namespace Scalar

variable {α : Type} [Scalar α]

/-- The lesser of two numbers; an operand that is none is ignored, and a tie keeps the first. -/
def min (a b : α) : α := if isNaN a then b else if lt b a then b else a

/-- The greater of two numbers; an operand that is none is ignored, and a tie keeps the first. -/
def max (a b : α) : α := if isNaN a then b else if lt a b then b else a

end Scalar

/-! ## Doubles -/

instance : Scalar Float where
  zero := 0.0
  one := 1.0
  half := 0.5
  abs := Float.abs
  lt a b := decide (a < b)
  le a b := decide (a ≤ b)
  isNaN := Float.isNaN
  isFinite := Float.isFinite
  same a b := a.toBits == b.toBits
  ofInt := Number.nearestInt
  plain := Number.plain
  token := Number.token

/-! ## Exact rationals -/

instance : Scalar Rat where
  zero := 0
  one := 1
  half := 1 / 2
  abs := Rat.abs
  lt a b := decide (a < b)
  le a b := decide (a ≤ b)
  isNaN _ := false
  isFinite _ := true
  same a b := decide (a = b)
  ofInt n := n
  plain q := toString q
  token q := toString q

namespace Scalar

@[simp] theorem zero_rat : (Scalar.zero : Rat) = 0 := rfl
@[simp] theorem one_rat : (Scalar.one : Rat) = 1 := rfl
@[simp] theorem half_rat : (Scalar.half : Rat) = 1 / 2 := rfl
@[simp] theorem lt_rat (a b : Rat) : Scalar.lt a b = decide (a < b) := rfl
@[simp] theorem le_rat (a b : Rat) : Scalar.le a b = decide (a ≤ b) := rfl
@[simp] theorem isNaN_rat (a : Rat) : Scalar.isNaN a = false := rfl
@[simp] theorem isFinite_rat (a : Rat) : Scalar.isFinite a = true := rfl
@[simp] theorem same_rat (a b : Rat) : Scalar.same a b = decide (a = b) := rfl
@[simp] theorem ofInt_rat (n : Int) : (Scalar.ofInt n : Rat) = n := rfl

end Scalar

end GridLayout
