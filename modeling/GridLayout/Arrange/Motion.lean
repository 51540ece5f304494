import GridLayout.Spec.Operation
import GridLayout.Text.EditDistance

/-!
# Carrying out operations

An operation is carried out in two steps.  `Operation.check` looks at its arguments, one after
another, and either reports the first that cannot be used or says what is to move: a `Motion`.
`Motion.apply` then moves it, and cannot fail.  So an operation either succeeds or leaves every box
where it was.

The order of the checks is the order in which arguments are read: the box that moves, its anchor,
the target or displacement, the gap.

`runAll` carries out a list of operations in order; one that fails is noted and passed over.
-/

namespace GridLayout

/-! ## Failures -/

/-- The arguments of operations. -/
inductive Argument where
  | source
  | target
  | displacement
  | gap
  | anchor
  deriving DecidableEq, Repr

/-- The name of an argument in documents. -/
def Argument.name : Argument → String
  | .source => "from"
  | .target => "to"
  | .displacement => "by"
  | .gap => "gap"
  | .anchor => "anchor"

/-- What an argument has to be. -/
inductive Expectation where
  | anchorRef
  | boxRef
  | anchorName
  | target
  | offset
  | number
  deriving DecidableEq, Repr

/-- The words for what an argument has to be. -/
def Expectation.text : Expectation → String
  | .anchorRef => "\x7bboxId, anchor\x7d"
  | .boxRef => "\x7bboxId\x7d"
  | .anchorName => "an anchor name"
  | .target => "a number, a coordinate \x7bx, y\x7d or \x7bboxId, anchor\x7d"
  | .offset => "a number or a coordinate \x7bx, y\x7d"
  | .number => "a number"

/-- Why an operation cannot be carried out. -/
inductive Failure (α : Type) where
  /-- An argument of the wrong shape. -/
  | malformed (argument : Argument) (expected : Expectation) (raw : Value α)
  /-- An argument with a number that is not finite. -/
  | notFinite (argument : Argument) (value : Coordinate α)
  /-- A box that is not there, and boxes of nearly that name. -/
  | unknownBox (boxId : String) (suggestions : List String)
  /-- An anchor that no box has, and the box it was asked of. -/
  | unknownAnchor (name : String) (boxId : Option String)
  deriving Repr

/-! ## Checks -/

variable {α : Type}

/-- The boxes an operation works on. -/
abbrev BoxMap (α : Type) [Scalar α] := IdMap (GridBox α)

/-- The argument, when it has the right shape. -/
def Param.check {β : Type} (p : Param α β) (argument : Argument) (expected : Expectation) :
    Except (Failure α) β :=
  match p with
  | .valid v => .ok v
  | .malformed raw => .error (.malformed argument expected raw)

/-- The number of edits within which a name is suggested for another. -/
def suggestionLimit : Nat := 2

/-- The greatest number of suggestions. -/
def suggestionCount : Nat := 3

/-- The anchor of a name. -/
def findAnchor (name : String) (boxId : Option String) : Except (Failure α) Anchor :=
  match Anchor.ofName? name with
  | some a => .ok a
  | none => .error (.unknownAnchor name boxId)

variable [Scalar α]

/-- The box of an id. -/
def findBox (boxes : BoxMap α) (boxId : String) : Except (Failure α) (GridBox α) :=
  match boxes.get? boxId with
  | some b => .ok b
  | none => .error (.unknownBox boxId (near boxes.keys boxId suggestionLimit suggestionCount))

/-- The box and the anchor that a reference names. -/
def AnchorRef.find (r : AnchorRef) (boxes : BoxMap α) :
    Except (Failure α) (GridBox α × Anchor) := do
  let b ← findBox boxes r.boxId
  let a ← findAnchor r.anchor (some r.boxId)
  return (b, a)

/-- A coordinate both of whose components are finite. -/
def finite (argument : Argument) (value : Coordinate α) : Except (Failure α) (Coordinate α) :=
  if value.isFinite then .ok value else .error (.notFinite argument value)

/-- The point that a target stands for. -/
def Target.resolve (t : Target α) (boxes : BoxMap α) : Except (Failure α) (Coordinate α) :=
  match t with
  | .point c => finite .target c
  | .value v => finite .target (Coordinate.splat v)
  | .anchor r => do
    let (b, a) ← r.find boxes
    return b.anchor a
  | .malformed raw => .error (.malformed .target .target raw)

/-- The displacement that an offset stands for. -/
def Offset.resolve (o : Offset α) (argument : Argument) : Except (Failure α) (Coordinate α) :=
  match o with
  | .vector c => finite argument c
  | .uniform v => finite argument (Coordinate.splat v)
  | .malformed raw => .error (.malformed argument .offset raw)

/-- The gap of an operation in the plane; none is no gap. -/
def planeGap : Option (Offset α) → Except (Failure α) (Coordinate α)
  | none => .ok Coordinate.zero
  | some o => o.resolve .gap

/-- The gap of an operation along one axis; none is no gap. -/
def lineGap : Option (Param α α) → Except (Failure α) α
  | none => .ok Scalar.zero
  | some p => do
    let v ← p.check .gap .number
    let c ← finite .gap (Coordinate.splat v)
    return c.x

/-! ## Motions -/

/-- What an operation, once checked, does to the boxes. -/
inductive Motion (α : Type) where
  /-- One box moves. -/
  | shift (boxId : String) (delta : Coordinate α)
  /-- Every box moves along an axis until its anchor is on the line. -/
  | level (axis : Axis) (anchor : Anchor) (line : α)
  /-- The boxes follow one another along an axis. -/
  | stack (axis : Axis) (gap : α)
  deriving Repr

/-- Moves a box along an axis until its anchor is on the line. -/
def GridBox.level (b : GridBox α) (axis : Axis) (anchor : Anchor) (line : α) : GridBox α :=
  b.translate (Coordinate.onAxis axis (line - (b.anchor anchor).along axis))

/-- Moves a box along an axis until its leading edge is at the cursor, and moves the cursor past the
box and the gap. -/
def GridBox.place (axis : Axis) (gap : α) (cursor : α) (b : GridBox α) : GridBox α × α :=
  (b.translate (Coordinate.onAxis axis (cursor - b.origin.along axis)),
    cursor + (b.diagonal.along axis + gap))

/-- Moves the boxes. -/
def Motion.apply : Motion α → BoxMap α → BoxMap α
  | .shift boxId delta, boxes => boxes.modify boxId fun b => b.translate delta
  | .level axis anchor line, boxes => boxes.map fun b => b.level axis anchor line
  | .stack axis gap, boxes => boxes.mapAccum (GridBox.place axis gap) Scalar.zero

/-! ## Operations -/

namespace Operation

/-- Checks the arguments of an operation, in order, and says what is to move. -/
def check (op : Operation α) (boxes : BoxMap α) : Except (Failure α) (Motion α) :=
  match op with
  | .moveTo source target gap => do
    let r ← source.check .source .anchorRef
    let (b, a) ← r.find boxes
    let point ← target.resolve boxes
    let gap ← planeGap gap
    return .shift r.boxId (point + gap - b.anchor a)
  | .moveBy source displacement gap => do
    let r ← source.check .source .boxRef
    let _ ← findBox boxes r.boxId
    let delta ← displacement.resolve .displacement
    let gap ← planeGap gap
    return .shift r.boxId (delta + gap)
  | .align axis source target gap => do
    let r ← source.check .source .anchorRef
    let (b, a) ← r.find boxes
    let point ← target.resolve boxes
    let gap ← lineGap gap
    return .shift r.boxId
      (Coordinate.onAxis axis (point.along axis + gap - (b.anchor a).along axis))
  | .alignAll axis target anchor gap => do
    let name ← anchor.check .anchor .anchorName
    let a ← findAnchor name none
    let point ← target.resolve boxes
    let gap ← lineGap gap
    return .level axis a (point.along axis + gap)
  | .stack axis gap => do
    let gap ← lineGap gap
    return .stack axis gap

/-- Carries out an operation. -/
def run (op : Operation α) (boxes : BoxMap α) : Except (Failure α) (BoxMap α) :=
  (op.check boxes).map fun m => m.apply boxes

/-- Carries out operations in order.  One that fails moves nothing; it is listed with its failure.
-/
def runAll : List (Operation α) → BoxMap α → BoxMap α × List (Operation α × Failure α)
  | [], boxes => (boxes, [])
  | op :: ops, boxes =>
    match op.run boxes with
    | .ok moved => runAll ops moved
    | .error failure =>
      let (final, failures) := runAll ops boxes
      (final, (op, failure) :: failures)

end Operation

end GridLayout
